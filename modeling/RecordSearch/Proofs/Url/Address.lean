import Mathlib.Data.List.TakeWhile
import RecordSearch.Url.Basic

/-!
# Addresses that end with a name

Reading a URL changes its text in many ways, but none of them touches letters and digits.  So an
address under the standard base that ends with a name of such characters is read as it is written.
-/

namespace RecordSearch.Url

open RecordSearch.Text

variable {c sign : Char} {s part rest : List Char} {parts : List (List Char)}

/-- A character that stands for itself in a segment of a path. -/
structure Keeps (c : Char) : Prop where
  visible : 0x20 < c.toNat
  inside : endsPath c = false
  unbroken : isSlash true c = false
  plain : c ≠ '%' ∧ c ≠ '.'
  bare : inPathSet c = false

theorem keeps_of_alphanumeric (known : isAsciiLetter c = true ∨ isAsciiDigit c = true) :
    Keeps c := by
  have ascii : c.toNat < 128 := by
    simp only [isAsciiLetter, isAsciiUpper, isAsciiLower, isAsciiDigit, Bool.or_eq_true,
      Bool.and_eq_true, decide_eq_true_eq, Char.le_def, UInt32.le_iff_toNat_le] at known
    rcases known with (upper | lower) | digit
    · exact Nat.lt_of_le_of_lt upper.2 (by decide)
    · exact Nat.lt_of_le_of_lt lower.2 (by decide)
    · exact Nat.lt_of_le_of_lt digit.2 (by decide)
  have each : ∀ n < 128,
      (isAsciiLetter (Char.ofNat n) = true ∨ isAsciiDigit (Char.ofNat n) = true) →
      0x20 < (Char.ofNat n).toNat ∧ endsPath (Char.ofNat n) = false ∧
        isSlash true (Char.ofNat n) = false ∧ (Char.ofNat n ≠ '%' ∧ Char.ofNat n ≠ '.') ∧
          inPathSet (Char.ofNat n) = false := by
    decide
  have entry := each c.toNat ascii
  rw [Char.ofNat_toNat] at entry
  obtain ⟨visible, inside, unbroken, plain, bare⟩ := entry known
  exact ⟨visible, inside, unbroken, plain, bare⟩

theorem cleaned_of_visible (visible : ∀ c ∈ s, 0x20 < c.toNat) : cleaned s = s := by
  have stays (l : List Char) (visible : ∀ c ∈ l, 0x20 < c.toNat) :
      l.dropWhile (fun c => decide (c.toNat ≤ 0x20)) = l := by
    cases l with
    | nil => rfl
    | cons c l =>
        have first := visible c List.mem_cons_self
        rw [List.dropWhile_cons_of_neg (by simpa using first)]
  have back : ∀ c ∈ s.reverse, 0x20 < c.toNat := fun c member =>
    visible c (List.mem_reverse.mp member)
  simp only [cleaned, stays s visible, stays s.reverse back, List.reverse_reverse]
  apply List.filter_eq_self.mpr
  intro c member
  have later := visible c member
  have other (sign : Char) (control : sign.toNat ≤ 0x20) : c ≠ sign := by
    rintro rfl
    omega
  simp [other '\t' (by decide), other '\n' (by decide), other '\r' (by decide)]

theorem splitOn_cons (sign d : Char) (s : List Char) :
    splitOn sign (d :: s) =
      if d = sign then [] :: splitOn sign s
      else
        match splitOn sign s with
        | [] => [[d]]
        | part :: rest => (d :: part) :: rest := rfl

theorem splitOn_of_not_mem (whole : sign ∉ s) : splitOn sign s = [s] := by
  induction s with
  | nil => rfl
  | cons d s inductionHypothesis =>
      obtain ⟨other, later⟩ := not_or.mp (mt List.mem_cons.mpr whole)
      rw [splitOn_cons, if_neg (Ne.symm other), inductionHypothesis later]

theorem splitOn_append_cons (whole : sign ∉ part) :
    splitOn sign (part ++ sign :: rest) = part :: splitOn sign rest := by
  induction part with
  | nil => rw [List.nil_append, splitOn_cons, if_pos rfl]
  | cons d part inductionHypothesis =>
      obtain ⟨other, later⟩ := not_or.mp (mt List.mem_cons.mpr whole)
      rw [List.cons_append, splitOn_cons, if_neg (Ne.symm other), inductionHypothesis later]

theorem encode_of_bare {set : Char → Bool} (bare : ∀ c ∈ s, set c = false) : encode set s = s := by
  induction s with
  | nil => rfl
  | cons c s inductionHypothesis =>
      obtain ⟨first, later⟩ := List.forall_mem_cons.mp bare
      rw [encode, List.flatMap_cons, ← encode, inductionHypothesis later, first]
      rfl

theorem plainDots_of_not_mem (plain : '%' ∉ s) : plainDots s = s := by
  fun_induction plainDots s with
  | case1 rest _ => simp at plain
  | case2 rest _ => simp at plain
  | case3 c rest _ _ inductionHypothesis =>
      rw [inductionHypothesis (List.not_mem_of_not_mem_cons plain)]
  | case4 => rfl

theorem not_dots_of_plain (percent : '%' ∉ s) (dot : '.' ∉ s) :
    isDoubleDot s = false ∧ isSingleDot s = false := by
  have double : s ≠ ['.', '.'] := by
    rintro rfl
    simp at dot
  have single : s ≠ ['.'] := by
    rintro rfl
    simp at dot
  simp [isDoubleDot, isSingleDot, plainDots_of_not_mem percent, double, single]

theorem not_mem_of_keeps (keeps : ∀ c ∈ part, Keeps c) (other : ¬ Keeps sign) : sign ∉ part :=
  fun member => other (keeps sign member)

theorem joinSlashes_cons (part : List Char) (parts : List (List Char)) :
    joinSlashes (part :: parts) = '/' :: (part ++ joinSlashes parts) := rfl

theorem mem_joinSlashes (member : c ∈ joinSlashes parts) : c = '/' ∨ ∃ part ∈ parts, c ∈ part := by
  obtain ⟨part, among, within⟩ := List.mem_flatMap.mp member
  rcases List.mem_cons.mp within with slash | within
  · exact .inl slash
  · exact .inr ⟨part, among, within⟩

theorem splitOn_joinSlashes (whole : ∀ part ∈ parts, '/' ∉ part) (first : '/' ∉ part) :
    splitOn '/' (part ++ joinSlashes parts) = part :: parts := by
  induction parts generalizing part with
  | nil =>
      rw [joinSlashes, List.flatMap_nil, List.append_nil]
      exact splitOn_of_not_mem first
  | cons next parts inductionHypothesis =>
      obtain ⟨second, later⟩ := List.forall_mem_cons.mp whole
      rw [joinSlashes_cons, splitOn_append_cons first, inductionHypothesis later second]

/-- The names of a path are its segments, and nothing follows them. -/
theorem segments_joinSlashes (keeps : ∀ part' ∈ part :: parts, ∀ c ∈ part', Keeps c) :
    segments true (part ++ joinSlashes parts) = (part :: parts, []) := by
  have slash : ¬ Keeps '/' := fun keeps => absurd keeps.unbroken (by decide)
  obtain ⟨first, others⟩ := List.forall_mem_cons.mp keeps
  have each : ∀ c ∈ part ++ joinSlashes parts, c = '/' ∨ Keeps c := by
    intro c member
    rcases List.mem_append.mp member with within | member
    · exact .inr (first c within)
    · refine (mem_joinSlashes member).imp_right ?_
      rintro ⟨part', among, within⟩
      exact others part' among c within
  have whole : ∀ c ∈ part ++ joinSlashes parts, (!endsPath c) = true := by
    intro c member
    rcases each c member with rfl | keeps
    · decide
    · rw [keeps.inside]
      rfl
  have same : (part ++ joinSlashes parts).map (fun c => if isSlash true c then '/' else c) =
      part ++ joinSlashes parts := by
    refine (List.map_congr_left fun c member => ?_).trans (List.map_id _)
    rcases each c member with rfl | keeps
    · rfl
    · rw [keeps.unbroken]
      rfl
  have split : splitOn '/' (part ++ joinSlashes parts) = part :: parts :=
    splitOn_joinSlashes (fun part' among => not_mem_of_keeps (others part' among) slash)
      (not_mem_of_keeps first slash)
  simp only [segments, List.takeWhile_eq_self_iff.mpr whole, List.dropWhile_eq_nil_iff.mpr whole,
    same, split]

theorem resolve_keeps (keeps : ∀ part ∈ parts, ∀ c ∈ part, Keeps c) (filled : parts ≠ [])
    (done : List (List Char)) : resolve done parts = done.reverse ++ parts := by
  induction parts generalizing done with
  | nil => exact absurd rfl filled
  | cons part parts inductionHypothesis =>
      obtain ⟨first, later⟩ := List.forall_mem_cons.mp keeps
      have dots := not_dots_of_plain
        (not_mem_of_keeps first fun keeps : Keeps '%' => keeps.plain.1 rfl)
        (not_mem_of_keeps first fun keeps : Keeps '.' => keeps.plain.2 rfl)
      have bare : encode inPathSet part = part :=
        encode_of_bare fun c member => (first c member).bare
      cases parts with
      | nil => simp [resolve, dots, bare]
      | cons next parts =>
          have rest := inductionHypothesis later (List.cons_ne_nil _ _) (part :: done)
          simp only [resolve, dots, bare, Bool.false_eq_true, if_false, rest]
          simp

theorem pathAfterAuthority_joinSlashes (keeps : ∀ part' ∈ part :: parts, ∀ c ∈ part', Keeps c) :
    pathAfterAuthority true (joinSlashes (part :: parts)) = (joinSlashes (part :: parts), []) := by
  have slash : isSlash true '/' = true := by decide
  have resolved := resolve_keeps keeps (List.cons_ne_nil _ _) []
  rw [joinSlashes_cons]
  simp only [pathAfterAuthority, slash, if_true, Bool.not_true, Bool.false_and,
    Bool.false_eq_true, if_false, segments_joinSlashes keeps, resolved]
  rfl

def ofPath (path : List Char) : Url where
  scheme := "http".toList
  authority := some ⟨[], "localhost".toList, some 8080⟩
  path := path

/-- The standard host in front of a path is read up to the path. -/
theorem afterSlashes_standard (path : List Char) :
    afterSlashes "http".toList true ("localhost:8080/".toList ++ path) =
      .ok (withTail true (ofPath (pathAfterAuthority true ('/' :: path)).1)
        (pathAfterAuthority true ('/' :: path)).2) := by
  have user : userinfo true ("localhost:8080/".toList ++ path) =
      .ok ([], "localhost:8080/".toList ++ path) := rfl
  have name : hostPart true false ("localhost:8080/".toList ++ path) = "localhost".toList := rfl
  have host : specialHost "localhost".toList = .ok "localhost".toList := by decide +kernel
  have rest : ("localhost:8080/".toList ++ path).drop "localhost".toList.length =
      ':' :: ("8080/".toList ++ path) := rfl
  have number : port "http".toList ("8080/".toList ++ path) = .ok (some 8080, '/' :: path) := rfl
  simp only [afterSlashes, user, bind, Except.bind, name, rest, host, number, if_true]
  rfl

theorem render_ofPath (path : List Char) :
    (ofPath path).render = "http://localhost:8080".toList ++ path := by
  simp only [Url.render, Authority.render, ofPath, List.append_nil]
  rfl

theorem parse_names {text : String}
    (written : text.toList = "http://localhost:8080".toList ++ joinSlashes (part :: parts))
    (keeps : ∀ part' ∈ part :: parts, ∀ c ∈ part', Keeps c) :
    parse text = .ok (ofPath (joinSlashes (part :: parts))) := by
  have visible : ∀ c ∈ text.toList, 0x20 < c.toNat := by
    intro c member
    rw [written] at member
    rcases List.mem_append.mp member with host | path
    · have each : ("http://localhost:8080".toList.all fun c => 0x20 < c.toNat) = true := by decide
      exact of_decide_eq_true (List.all_eq_true.mp each c host)
    · rcases mem_joinSlashes path with rfl | ⟨part', among, within⟩
      · decide
      · exact (keeps part' among c within).visible
  have front : "http://localhost:8080".toList ++ joinSlashes (part :: parts) =
      "http://localhost:8080/".toList ++ (part ++ joinSlashes parts) := by
    simp [joinSlashes]
  have scheme (path : List Char) : scheme? ("http://localhost:8080/".toList ++ path) =
      some ("http".toList, "//localhost:8080/".toList ++ path) := rfl
  have family : familyOf "http".toList = .web := by decide
  have slashes (path : List Char) : ("//localhost:8080/".toList ++ path).dropWhile (isSlash true) =
      "localhost:8080/".toList ++ path := rfl
  have path := pathAfterAuthority_joinSlashes keeps
  rw [parse, cleaned_of_visible visible, written, front, scheme]
  simp only [ofScheme, family, slashes, afterSlashes_standard]
  exact congrArg (fun p => Except.ok (withTail true (ofPath p.1) p.2)) path

def retrieveBase : String := "http://localhost:8080/api/v1/retrieve/"

/-- An address under the base that ends with a name of letters and digits is read as it is. -/
theorem parse_retrieve {name : String}
    (known : ∀ c ∈ name.toList, isAsciiLetter c = true ∨ isAsciiDigit c = true) :
    ∃ u, parse (retrieveBase ++ name) = .ok u ∧ u.text = retrieveBase ++ name := by
  have keeps : ∀ part ∈ ["api".toList, "v1".toList, "retrieve".toList, name.toList],
      ∀ c ∈ part, Keeps c := by
    have letters (word : List Char)
        (known : (word.all fun c => isAsciiLetter c || isAsciiDigit c) = true) :
        ∀ c ∈ word, Keeps c := fun c member =>
      keeps_of_alphanumeric (Bool.or_eq_true_iff.mp (List.all_eq_true.mp known c member))
    simp only [List.forall_mem_cons]
    exact ⟨letters _ (by decide), letters _ (by decide), letters _ (by decide),
      fun c member => keeps_of_alphanumeric (known c member), List.forall_mem_nil _⟩
  have written : (retrieveBase ++ name).toList = "http://localhost:8080".toList ++
      joinSlashes ["api".toList, "v1".toList, "retrieve".toList, name.toList] := by
    rw [String.toList_append]
    simp [retrieveBase, joinSlashes]
  refine ⟨_, parse_names written keeps, ?_⟩
  apply String.toList_injective
  rw [Url.text, String.toList_ofList, render_ofPath, written]

end RecordSearch.Url
