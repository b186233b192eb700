import RecordSearch.Proofs.Grammar.Operand
import RecordSearch.Proofs.Grammar.Renaming

/-!
# Reserved words as attributes

An attribute of the extended dialect may be any name in double quotes, and a reserved word without
them is no name.  Whether a name was quoted can be seen if the quotes are kept where attributes are
read.  Then it turns out that `include` is a name all the same, as `in` hides it.
-/

namespace RecordSearch

open RecordSearch.Grammar RecordSearch.Text
open RecordSearch.Dialect (extended classic)

namespace Grammar

variable {d : Dialect} {s rest : List Char} {name : String}

def withQuotes (name : String) : String := String.ofList ('"' :: (name.toList ++ ['"']))

def withoutQuotes (name : String) : String :=
  if name.toList.head? = some '"' then String.ofList name.toList.tail.dropLast else name

theorem withoutQuotes_withQuotes (name : String) : withoutQuotes (withQuotes name) = name := by
  simp [withoutQuotes, withQuotes]

theorem withoutQuotes_of_bare (bare : '"' ∉ name.toList) : withoutQuotes name = name := by
  apply if_neg
  intro first
  exact bare (List.mem_of_mem_head? first)

end Grammar

namespace Dialect

/-- An attribute as it is written. -/
def writtenAttr : Dialect → Rule String
  | extended =>
    Rule.named (Rule.firstOf
      [withQuotes <$> quotedAttribute, String.ofList <$> Rule.token bareName])
  | classic => classicAttribute

/-- The filter of a query, with its attributes as they are written. -/
def Writes (d : Dialect) (q : String) (w : Filter) : Prop :=
  ∃ rest, (d.queryWith d.writtenAttr).read q.toList = some (.ok w, rest)

end Dialect

namespace Grammar

variable {d : Dialect} {s rest : List Char} {name : String}

section Written

structure Bare (name : String) : Prop where
  unquoted : '"' ∉ name.toList
  unreserved : ∀ word ∈ reservedWords, word ≠ "include" → asciiLowerText name ≠ word

theorem bare_of_plainName {taken : List Char} (read : plainName s = some (taken, rest)) :
    Bare (String.ofList taken) := by
  obtain ⟨-, -, whole, -⟩ := plainName_eq_some read
  constructor
  · rw [String.toList_ofList, whole]
    exact fun member => absurd (List.mem_takeWhile_imp member) (by decide)
  · rintro word reserved other same
    apply headWord_ne_of_plainName read reserved other
    rw [headWord, ← whole, ← same, asciiLowerText, String.toList_ofList, String.toList_ofList]

theorem bare_of_bareName {taken : List Char} (read : bareName s = some (taken, rest)) :
    Bare (String.ofList taken) := by
  unfold bareName at read
  split at read
  · cases read
  · exact bare_of_plainName read

theorem Rule.Maps.self {α : Type} {φ : α → α} {rule : Rule α}
    (fixed : ∀ s a rest, rule.read s = some (a, rest) → φ a = a) : Rule.Maps φ rule rule := by
  intro s
  cases read : rule.read s with
  | none => rfl
  | some r => rw [Option.map_some, fixed s r.1 r.2 read]

theorem bare_of_read {scan : Scan (List Char)}
    (bare : ∀ s taken rest, scan s = some (taken, rest) → Bare (String.ofList taken))
    (read : (String.ofList <$> Rule.token scan).read s = some (name, rest)) : Bare name := by
  rw [Rule.read_map, Rule.read_token, Option.map_eq_some_iff] at read
  obtain ⟨⟨taken, last⟩, scanned, done⟩ := read
  cases done
  exact bare s taken _ scanned

theorem maps_writtenAttr (d : Dialect) : Rule.Maps withoutQuotes d.writtenAttr d.attr := by
  have bare {scan : Scan (List Char)}
      (bare : ∀ s taken rest, scan s = some (taken, rest) → Bare (String.ofList taken)) :
      Rule.Maps withoutQuotes (String.ofList <$> Rule.token scan)
        (String.ofList <$> Rule.token scan) :=
    .self fun s name rest read => withoutQuotes_of_bare (bare_of_read bare read).unquoted
  cases d with
  | classic => exact bare fun s taken rest => bare_of_plainName
  | extended =>
      have quoted : Rule.Maps withoutQuotes (withQuotes <$> quotedAttribute) quotedAttribute := by
        intro s
        rw [Rule.read_map]
        cases quotedAttribute.read s with
        | none => rfl
        | some r => simp [withoutQuotes_withQuotes]
      exact .named <|
        .firstOf (.cons quoted (.cons (bare fun s taken rest => bare_of_bareName) .nil))

theorem bare_of_writtenAttr (read : d.writtenAttr.read s = some (name, rest))
    (unquoted : '"' ∉ name.toList) : Bare name := by
  cases d with
  | classic => exact bare_of_read (fun s taken rest => bare_of_plainName) read
  | extended =>
      simp only [Dialect.writtenAttr, Rule.read_named, Rule.read_firstOf_pair_eq_some] at read
      rcases read with quoted | ⟨-, bare⟩
      · rw [Rule.read_map, Option.map_eq_some_iff] at quoted
        obtain ⟨⟨inner, last⟩, -, done⟩ := quoted
        cases done
        refine absurd ?_ unquoted
        rw [withQuotes, String.toList_ofList]
        exact List.mem_cons_self
      · exact bare_of_read (fun s taken rest => bare_of_bareName) bare

end Written

end Grammar

namespace Dialect

variable {d : Dialect} {q : String} {f w : Filter} {name : String}

theorem exists_writes (read : d.read q = .ok f) :
    ∃ w, d.Writes q w ∧ f = w.rename withoutQuotes := by
  obtain ⟨rest, fits⟩ := read_eq_ok_iff.mp read
  have maps := maps_queryWith d (maps_writtenAttr d) (by decide) q.toList
  rw [queryWith_attr, fits] at maps
  obtain ⟨⟨v, last⟩, written, same⟩ := Option.map_eq_some_iff.mp maps.symm
  cases v with
  | error fault => cases same
  | ok w =>
      cases same
      exact ⟨w, ⟨_, written⟩, rfl⟩

/-- What is asked for was read as an attribute, unless it is the one that lists of texts are
about. -/
theorem Writes.attr (writes : d.Writes q w) (asks : w.Asks name) (other : name ≠ identityName) :
    ∃ s rest, d.writtenAttr.read s = some (name, rest) := by
  classical
  by_contra unread
  -- Another name for this one would change the filter, and no attribute that is read.
  let g : String → String := fun name' => if name' = name then name ++ "'" else name'
  have maps : Rule.Maps g d.writtenAttr d.writtenAttr := by
    apply Rule.Maps.self
    rintro s name' rest read
    apply if_neg
    rintro rfl
    exact unread ⟨s, rest, read⟩
  obtain ⟨rest, written⟩ := writes
  have same := maps_queryWith d maps (if_neg other.symm) q.toList
  rw [written, Option.map_some] at same
  have kept : w.rename g = w :=
    (Except.ok.inj (congrArg Prod.fst (Option.some.inj same))).symm
  have changed := Filter.eq_of_rename_eq_self kept asks
  rw [show g name = name ++ "'" from if_pos rfl] at changed
  have longer := congrArg String.length changed
  simp at longer

/-- Of the attributes that a query has without double quotes, the only reserved word is `include`,
in any letter case. -/
theorem reserved_iff_include (read : d.read q = .ok f) :
    ∃ w, d.Writes q w ∧ f = w.rename withoutQuotes ∧
      ∀ name, w.Asks name → '"' ∉ name.toList →
        (asciiLowerText name ∈ reservedWords ↔ asciiLowerText name = "include") := by
  obtain ⟨w, writes, renamed⟩ := exists_writes read
  refine ⟨w, writes, renamed, fun name asks unquoted => ⟨fun reserved => ?_, fun same => ?_⟩⟩
  · by_cases identity : name = identityName
    · subst identity
      exact absurd reserved (by decide)
    · obtain ⟨s, rest, found⟩ := writes.attr asks identity
      by_contra other
      exact (bare_of_writtenAttr found unquoted).unreserved _ reserved other rfl
  · rw [same]
    decide

section Examples

variable {p : Predicate}

theorem exists_read_of_beq {rule : Rule (Built Filter)} {s : List Char}
    (found : (rule.read s).map (fun r => r.1.toOption.map (· == .test name p)) = some (some true)) :
    ∃ rest, rule.read s = some (.ok (.test name p), rest) := by
  obtain ⟨⟨v, rest⟩, read, same⟩ := Option.map_eq_some_iff.mp found
  cases v with
  | error fault => cases same
  | ok f =>
      obtain rfl : f = .test name p := by
        have same : Filter.beq f (.test name p) = true := Option.some.inj same
        cases f <;> simp [Filter.beq] at same
        rw [same.1, same.2]
      exact ⟨rest, read⟩

theorem reserved_iff_include_quoted :
    extended.read "\"not\" = 'a'" = .ok (.test "not" (.compare .eq (.text "a"))) ∧
      ∃ w, extended.Writes "\"not\" = 'a'" w ∧
        .test "not" (.compare .eq (.text "a")) = w.rename withoutQuotes ∧
        ∀ name, w.Asks name → '"' ∉ name.toList →
          (asciiLowerText name ∈ reservedWords ↔ asciiLowerText name = "include") := by
  have read : extended.read "\"not\" = 'a'" = .ok (.test "not" (.compare .eq (.text "a"))) :=
    read_eq_ok_iff.mpr (exists_read_of_beq (by decide +kernel))
  exact ⟨read, reserved_iff_include read⟩

/-- Both dialects take `include` for a name: the classic one before a comparison, where it is a
keyword of the extended one, and this one behind a value. -/
theorem reserved_include_accepted :
    (classic.read "include = 'a'" = .ok (.test "include" (.compare .eq (.text "a"))) ∧
      classic.Writes "include = 'a'" (.test "include" (.compare .eq (.text "a")))) ∧
    (extended.read "'a' = Include" = .ok (.test "Include" (.compare .eq (.text "a"))) ∧
      extended.Writes "'a' = Include" (.test "Include" (.compare .eq (.text "a")))) ∧
    asciiLowerText "include" ∈ reservedWords ∧ asciiLowerText "Include" ∈ reservedWords := by
  refine ⟨⟨read_eq_ok_iff.mpr ?_, ?_⟩, ⟨read_eq_ok_iff.mpr ?_, ?_⟩, by decide, by decide⟩
  · exact exists_read_of_beq (by decide +kernel)
  · exact exists_read_of_beq (by decide +kernel)
  · exact exists_read_of_beq (by decide +kernel)
  · exact exists_read_of_beq (by decide +kernel)

end Examples

end Dialect

end RecordSearch
