import RecordSearch.Proofs.Grammar.Agreement

/-!
# Queries that are one test

A test that is read up to the end of a query is the whole query.  So a comparison, also with its
attribute in double quotes, and a list of identities are read as they are written, and the extended
dialect refuses whatever begins with `id`.
-/

namespace RecordSearch

open RecordSearch.Grammar RecordSearch.Text
open RecordSearch.Dialect (extended classic conjunction disjunction)

namespace Grammar

variable {d : Dialect} {s rest : List Char} {v : Built Filter} {g : Filter} {f : Form}
  {name : String} {operand : Rule (Built Filter)}

theorem TestHead.stops_isSpace (head : TestHead s) : Stops isSpace s := by
  obtain ⟨c, later, rfl, start⟩ := head.start
  apply stops_cons.mpr
  rcases start with letter | rfl | value
  · exact isSpace_of_class letter (by decide) (by decide) (by decide) (by decide)
  · decide
  · exact isSpace_of_class value (by decide) (by decide) (by decide) (by decide)

theorem read_query_operand (stops : Stops isSpace s)
    (read : (d.operand (s.length + 1)).read s = some (v, rest))
    (noAnd : headWord (rest.dropWhile isSpace) ≠ "and".toList)
    (noOr : headWord (rest.dropWhile isSpace) ≠ "or".toList) :
    d.query.read s = if rest.dropWhile isSpace = [] then some (v, []) else none := by
  have whole : (disjunction (d.operand (s.length + 1))).read (s.dropWhile isSpace) =
      some (v, rest) := by
    rw [stops.dropWhile]
    exact read_disjunction_single noOr (read_conjunction_single noAnd read)
  split
  · next blank => exact read_query_eq_some.mpr ⟨rest, whole, blank, rfl⟩
  · next filled =>
      cases fits : d.query.read s with
      | none => rfl
      | some r =>
          obtain ⟨mid, held, blank, -⟩ := read_query_eq_some.mp fits
          rw [whole] at held
          cases held
          exact absurd blank filled

theorem read_query_whole (stops : Stops isSpace s)
    (read : (d.operand (s.length + 1)).read s = some (v, [])) :
    d.query.read s = some (v, []) := by
  have whole := read_query_operand stops read (show ([] : List Char) ≠ _ by decide)
    (show ([] : List Char) ≠ _ by decide)
  rwa [List.dropWhile_nil, if_pos rfl] at whole

theorem read_operand_test (among : f ∈ d.forms) (read : (f.rule d).read s = some (v, rest))
    (keyword : d = .extended → headWord s = "include".toList → f = .everything) (depth : Nat) :
    (d.operand (depth + 1)).read s = some (v, rest) := by
  have form : Form.of d s = f := form_of_read among keyword read
  apply read_operand_eq_some.mpr
  apply OperandRead.test
  · rwa [form]
  · rwa [form]

theorem read_query_test (among : f ∈ d.forms) (read : (f.rule d).read s = some (v, []))
    (other : d = .extended → headWord s ≠ "include".toList) :
    d.query.read s = some (v, []) :=
  read_query_whole (testHead_of_read read).stops_isSpace
    (read_operand_test among read (fun extended said => absurd said (other extended)) s.length)

theorem read_disjunction_eq_none (unread : operand.read s = none) :
    (disjunction operand).read s = none := by
  simp only [disjunction, conjunction, separated, Rule.read_named, Rule.read_map, Rule.read_bind,
    unread, Option.bind_none, Option.map_none]

theorem read_query_id (same : headWord s = "id".toList) (stops : Stops isSpace s) :
    extended.query.read s = none := by
  have unread : (extended.operand (s.length + 1)).read s = none := by
    cases read : (extended.operand (s.length + 1)).read s with
    | none => rfl
    | some r =>
        obtain ⟨v, last⟩ := r
        cases read_operand_eq_some.mp read with
        | negation a said =>
            rw [same] at said
            exact absurd said (by decide)
        | bracketed pair inside mid among opened =>
            rw [opened, headWord_bracket among] at same
            cases same
        | test among later =>
            rw [read_rule_id same] at later
            cases later
  cases read : extended.query.read s with
  | none => rfl
  | some r =>
      obtain ⟨mid, held, -⟩ := read_query_eq_some.mp read
      rw [stops.dropWhile, read_disjunction_eq_none unread] at held
      cases held

section Quotes

theorem read_quotedAttribute (filled : name.toList ≠ []) (unquoted : '"' ∉ name.toList)
    (rest : List Char) :
    extendedAttribute.read ('"' :: (name.toList ++ '"' :: rest)) = some (name, rest) := by
  have inside : quotedName (name.toList ++ '"' :: rest) = some (name.toList, '"' :: rest) := by
    apply Scan.some_append filled
    · intro c member
      exact bne_iff_ne.mpr fun same => unquoted (same ▸ member)
    · exact stops_cons.mpr (by decide)
  have quoted : quotedAttribute.read ('"' :: (name.toList ++ '"' :: rest)) = some (name, rest) := by
    simp only [quotedAttribute, Rule.read_named, Rule.read_bind, read_mark, Scan.char_cons,
      Option.map_some, Option.bind_some, Rule.read_token, inside, Rule.read_pure,
      String.ofList_toList]
  simp only [extendedAttribute, Rule.read_named, Rule.read_firstOf_cons, quoted, Option.some_or]

/-- Behind an attribute, however that is written, a comparison is read as it is written. -/
theorem read_behind_comparison (caseless : Bool) (op : Comparison) {value : Literal}
    (writable : value.Writable) (stops : Stops goesOn rest) :
    (Form.comparison.behind caseless name).read
      (' ' :: ((Predicate.compare op value).render ++ rest)) =
        some (.ok (.test name (.compare op value)), rest) := by
  have symbol := stops_isSpace_predicate (.compare op value) rest
  rw [render_compare] at symbol ⊢
  simp only [Form.behind, Rule.read_bind, read_next_blank _ symbol, read_comparisonOp,
    Option.bind_some, read_next_blank _ (stops_isSpace_literal writable _),
    read_value writable stops, Rule.read_pure]
  rfl

end Quotes

end Grammar

namespace Attribute

theorem isName_name (a : Attribute) : IsName a.name.toList := by
  have letters {l : List Char} (each : l.all isNameChar = true) : ∀ c ∈ l, isNameChar c = true :=
    List.all_eq_true.mp each
  constructor
  · cases a <;> exact ⟨_, _, rfl, by decide, letters (by decide)⟩
  · cases a <;> decide

/-- Attributes have names that can stand in a query, though the extended dialect keeps `id`. -/
theorem isAttribute_name {d : Dialect} (a : Attribute) (free : d = .extended → a ≠ .id) :
    d.IsAttribute a.name where
  proper := a.isName_name
  free extended := by
    have other := free extended
    cases a with
    | id => exact absurd rfl other
    | _ => decide

end Attribute

namespace Dialect

variable {texts : List String}

/-- An attribute in double quotes may be `id` too. -/
theorem read_quoted_comparison {q name : String} (filled : name.toList ≠ [])
    (unquoted : '"' ∉ name.toList) (op : Comparison) (text : String)
    (written : q.toList = '"' :: (name.toList ++
      '"' :: ' ' :: (Predicate.compare op (.text text)).render)) :
    extended.read q = .ok (.test name (.compare op (.text text))) := by
  apply read_of_query
  rw [written]
  have among : Form.comparison ∈ extended.forms := by decide
  have noWord (rest : List Char) : headWord ('"' :: rest) ≠ "include".toList := by
    have empty : headWord ('"' :: rest) = [] := rfl
    rw [empty]
    decide
  refine read_query_test among ?_ fun _ => noWord _
  have behind := @read_behind_comparison [] name extended.caseless op (.text text) trivial
    (stops_nil (p := goesOn))
  rw [List.append_nil] at behind
  rw [read_rule_attributed rfl, show extended.attr = extendedAttribute from rfl,
    read_quotedAttribute filled unquoted, Option.bind_some]
  exact behind

/-- A list of texts without an attribute. -/
def identities (texts : List String) : String :=
  String.ofList ("IN (".toList ++
    (joined ", ".toList (texts.map fun x => Quoted.literal x.toList) ++ [')']))

theorem toList_identities (texts : List String) :
    (identities texts).toList = "IN".toList ++ ' ' ::
      '(' :: (joined ", ".toList (texts.map fun x => Quoted.literal x.toList) ++ [')']) :=
  String.toList_ofList

theorem read_identities (filled : texts ≠ []) :
    extended.read (identities texts) = .ok (.test "id" (.oneOf (texts.map .text))) := by
  have spells : Spells "IN" "in" := by decide
  have bracket : Stops isSpace
      ('(' :: (joined ", ".toList (texts.map fun x => Quoted.literal x.toList) ++ [')'])) :=
    stops_cons.mpr (by decide)
  have read : identityIn.read ("IN".toList ++ ' ' ::
      '(' :: (joined ", ".toList (texts.map fun x => Quoted.literal x.toList) ++ [')'])) =
        some (.ok (.test "id" (.oneOf (texts.map .text))), []) := by
    simp only [identityIn, Rule.read_named, Rule.read_bind, spells.read_blank, Option.bind_some,
      read_next_blank _ bracket, read_listOf_quoted filled, Rule.read_pure]
    rfl
  have among : Form.identity ∈ extended.forms := by decide
  have said := spells.headWord (stops_cons.mpr (by decide) : Stops isNameChar (' ' ::
    '(' :: (joined ", ".toList (texts.map fun x => Quoted.literal x.toList) ++ [')'])))
  rw [← toList_identities] at read said
  refine read_of_query (read_query_test among read fun _ => ?_)
  rw [said]
  decide

end Dialect

end RecordSearch
