import Mathlib.Data.List.Nodup
import Mathlib.Data.List.Perm.Subperm
import Mathlib.Order.Monotone.Basic
import RecordSearch.Pattern.Size

/-!
# Small patterns are short

Every item that stands for one character takes a state of its own: the states on the way through a
value that a pattern stands for differ in the last item that they wait for.  A search that stops
below its limit has seen every state that it can reach, and so a pattern that is not refused has
fewer such items than states are allowed.
-/

namespace RecordSearch.Pattern

variable {p items : Pattern} {item : Item} {index limit fuel : Nat} {graph : Array Node}
  {bytes : List UInt8} {state : List Place} {seen found : List (List Place)}

/-- The items of a pattern that stand for one character each. -/
def singles (p : Pattern) : Pattern := p.filter (· != .run)

theorem singles_cons (single : item ≠ .run) : singles (item :: p) = item :: singles p :=
  List.filter_cons_of_pos (bne_iff_ne.mpr single)

section Search

def Explored (graph : Array Node) (bytes : List UInt8) (seen : List (List Place))
    (state : List Place) : Prop :=
  ∀ b ∈ bytes, next graph state b ≠ [] → next graph state b ∈ seen

def discover (graph : Array Node) (seen : List (List Place)) (state : List Place)
    (found : List (List Place)) (b : UInt8) : List (List Place) :=
  let reached := next graph state b
  if reached.isEmpty || seen.contains reached || found.contains reached then found
  else reached :: found

theorem mem_foldl_discover {other : List Place} (member : other ∈ found) :
    other ∈ bytes.foldl (discover graph seen state) found := by
  induction bytes generalizing found with
  | nil => exact member
  | cons b bytes inductionHypothesis =>
      apply inductionHypothesis
      simp only [discover]
      split
      · exact member
      · exact List.mem_cons_of_mem _ member

theorem explored_foldl_discover :
    Explored graph bytes (bytes.foldl (discover graph seen state) found ++ seen) state := by
  intro b among filled
  rw [List.mem_append]
  induction bytes generalizing found with
  | nil => exact absurd among List.not_mem_nil
  | cons c bytes inductionHypothesis =>
      rcases List.mem_cons.mp among with rfl | later
      · by_cases old : next graph state b ∈ seen
        · exact .inr old
        · rw [List.foldl_cons]
          refine .inl (mem_foldl_discover ?_)
          simp only [discover]
          split
          · next known =>
              simp only [Bool.or_eq_true, List.isEmpty_iff, List.contains_iff_mem] at known
              rcases known with (empty | seen') | found'
              · exact absurd empty filled
              · exact absurd seen' old
              · exact found'
          · exact List.mem_cons_self
      · exact inductionHypothesis later

/-- What a search has seen, when it ends below its limit, has no way out. -/
theorem exists_explored_of_exceeds {waiting : List (List Place)}
    (below : exceeds graph bytes limit fuel seen seen.length waiting = false)
    (bounded : seen.length ≤ limit) (enough : limit + 1 + waiting.length ≤ fuel + seen.length)
    (explored : ∀ state ∈ seen, state ∈ waiting ∨ Explored graph bytes seen state) :
    ∃ all : List (List Place), seen ⊆ all ∧ all.length ≤ limit ∧
      ∀ state ∈ all, Explored graph bytes all state := by
  induction fuel generalizing seen waiting with
  | zero => omega
  | succ fuel inductionHypothesis =>
      cases waiting with
      | nil =>
          refine ⟨seen, List.Subset.refl _, bounded, fun state member => ?_⟩
          exact (explored state member).resolve_left List.not_mem_nil
      | cons state waiting =>
          let fresh := bytes.foldl (discover graph seen state) []
          have next' : exceeds graph bytes limit (fuel + 1) seen seen.length (state :: waiting) =
              if limit < seen.length + fresh.length then true
              else exceeds graph bytes limit fuel (fresh ++ seen) (seen.length + fresh.length)
                (fresh ++ waiting) := rfl
          rw [next'] at below
          split at below
          · cases below
          have length : seen.length + fresh.length = (fresh ++ seen).length := by
            rw [List.length_append, Nat.add_comm]
          rw [length] at below
          obtain ⟨all, larger, most, closed⟩ := inductionHypothesis below (by omega)
            (by simp only [List.length_append, List.length_cons] at *; omega) (by
              intro other member
              rcases List.mem_append.mp member with new | old
              · exact .inl (List.mem_append_left _ new)
              · rcases explored other old with waits | done
                · rcases List.mem_cons.mp waits with rfl | later
                  · exact .inr explored_foldl_discover
                  · exact .inl (List.mem_append_right _ later)
                · exact .inr fun b among filled => List.mem_append_right _ (done b among filled))
          exact ⟨all, fun other old => larger (List.mem_append_right _ old), most, closed⟩

end Search

section Fronts

/-- The first place from here on that is not before a run. -/
def stop (index : Nat) : Pattern → Nat
  | [] => index
  | .run :: rest => stop (index + 1) rest
  | _ :: _ => index

theorem stop_single (single : item ≠ .run) : stop index (item :: items) = index := by
  cases item <;> first | rfl | exact absurd rfl single

theorem awaiting_single (single : item ≠ .run) :
    awaiting index (item :: items) = entries index item := by
  cases item <;> first | rfl | exact absurd rfl single

theorem le_stop : index ≤ stop index items := by
  induction items generalizing index with
  | nil => exact Nat.le_refl _
  | cons item items inductionHypothesis =>
      by_cases repeated : item = .run
      · rw [repeated, stop]
        exact Nat.le_of_succ_le inductionHypothesis
      · rw [stop_single repeated]

theorem forms_cons (item : Item) :
    ∃ form others, item.forms = form :: others ∧ form ≠ [] ∧
      ∀ range ∈ form, range.1 ≤ range.2 := by
  have literal (c : Char) : charForm c ≠ [] ∧ ∀ range ∈ charForm c, range.1 ≤ range.2 := by
    constructor
    · intro empty
      have length := congrArg List.length empty
      rw [charForm, List.length_map, String.length_utf8EncodeChar] at length
      exact absurd length (Nat.ne_of_gt c.utf8Size_pos)
    · intro range member
      obtain ⟨b, -, rfl⟩ := List.mem_map.mp member
      exact UInt8.le_refl b
  cases item with
  | char c => exact ⟨charForm c, [], rfl, literal c⟩
  | either c d => exact ⟨charForm c, [charForm d], rfl, literal c⟩
  | any | run => exact ⟨_, _, rfl, by decide, List.forall_mem_singleton.mpr (by decide)⟩

theorem item_of_mem_awaiting {place : Place} (member : place ∈ awaiting index items) :
    place.item ≤ stop index items := by
  induction items generalizing index with
  | nil =>
      rw [List.mem_singleton.mp member]
      exact Nat.le_refl _
  | cons item items inductionHypothesis =>
      have entry {item : Item} (member : place ∈ entries index item) : place.item = index := by
        obtain ⟨form, -, rfl⟩ := List.mem_map.mp member
        rfl
      by_cases repeated : item = .run
      · subst repeated
        rcases List.mem_append.mp member with first | later
        · rw [entry first, stop]
          exact Nat.le_of_succ_le le_stop
        · exact inductionHypothesis later
      · rw [awaiting_single repeated] at member
        rw [entry member, stop_single repeated]

theorem mem_awaiting (index : Nat) (items : Pattern) :
    ⟨stop index items, 0, 0⟩ ∈ awaiting index items := by
  induction items generalizing index with
  | nil => exact List.mem_singleton_self _
  | cons item items inductionHypothesis =>
      by_cases repeated : item = .run
      · subst repeated
        exact List.mem_append_right _ (inductionHypothesis (index + 1))
      · obtain ⟨form, others, forms, -⟩ := forms_cons item
        rw [awaiting_single repeated, stop_single repeated, entries, forms]
        exact List.mem_map.mpr ⟨0, List.mem_range.mpr (Nat.succ_pos _), rfl⟩

def after (index : Nat) : Pattern → List Place
  | [] => []
  | .run :: rest => awaiting index (.run :: rest)
  | _ :: rest => awaiting (index + 1) rest

theorem nodes_getElem? (place : Nat) :
    (nodes index items)[place]? =
      (items[place]?).map fun item => ⟨item.forms, after (index + place) (items.drop place)⟩ := by
  induction items generalizing index place with
  | nil => rfl
  | cons item items inductionHypothesis =>
      have split : nodes index (item :: items) =
          ⟨item.forms, after index (item :: items)⟩ :: nodes (index + 1) items := by
        cases item <;> rfl
      rw [split]
      cases place with
      | zero => rfl
      | succ place =>
          rw [List.getElem?_cons_succ, List.getElem?_cons_succ, inductionHypothesis,
            Nat.add_assoc, Nat.add_comm 1 place, List.drop_succ_cons]

/-- The first place of a pattern from a place on that is not before a run. -/
def gate (p : Pattern) (index : Nat) : Nat := stop index (p.drop index)

theorem gate_of_single (single : item ≠ .run) (stands : p[index]? = some item) :
    gate p index = index := by
  obtain ⟨within, same⟩ := List.getElem?_eq_some_iff.mp stands
  rw [gate, List.drop_eq_getElem_cons within, same, stop_single single]

theorem gate_of_run (stands : p[index]? = some .run) : gate p index = gate p (index + 1) := by
  obtain ⟨within, same⟩ := List.getElem?_eq_some_iff.mp stands
  rw [gate, List.drop_eq_getElem_cons within, same, stop, gate]

theorem gate_mono : Monotone (gate p) := by
  apply monotone_nat_of_le_succ
  intro index
  have later : index + 1 ≤ gate p (index + 1) := le_stop
  cases stands : p[index]? with
  | none =>
      have past : p.drop index = [] := List.drop_eq_nil_of_le (List.getElem?_eq_none_iff.mp stands)
      rw [gate, past, stop]
      omega
  | some item =>
      by_cases repeated : item = .run
      · rw [gate_of_run (repeated ▸ stands)]
      · rw [gate_of_single repeated stands]
        omega

theorem after_of_single (single : item ≠ .run) (stands : p[index]? = some item) :
    after index (p.drop index) = awaiting (index + 1) (p.drop (index + 1)) := by
  obtain ⟨within, same⟩ := List.getElem?_eq_some_iff.mp stands
  rw [List.drop_eq_getElem_cons within, same]
  cases item <;> first | rfl | exact absurd rfl single

theorem item_of_mem_after {place : Place} (member : place ∈ after index (p.drop index)) :
    place.item ≤ gate p (index + 1) := by
  cases stands : p[index]? with
  | none =>
      have past : p.drop index = [] := List.drop_eq_nil_of_le (List.getElem?_eq_none_iff.mp stands)
      rw [past] at member
      exact absurd member List.not_mem_nil
  | some item =>
      by_cases repeated : item = .run
      · subst repeated
        obtain ⟨within, same⟩ := List.getElem?_eq_some_iff.mp stands
        rw [List.drop_eq_getElem_cons within, same] at member
        have below : place.item ≤ stop index (.run :: p.drop (index + 1)) :=
          item_of_mem_awaiting member
        exact below
      · rw [after_of_single repeated stands] at member
        exact item_of_mem_awaiting member

/-- A place is left behind, stays within its form, or gives way to what comes after its item. -/
theorem follow_cases (p : Pattern) (b : UInt8) (place : Place) :
    follow (nodes 0 p).toArray b place = [] ∨
      follow (nodes 0 p).toArray b place = [⟨place.item, place.form, place.byte + 1⟩] ∨
      follow (nodes 0 p).toArray b place = after place.item (p.drop place.item) := by
  unfold follow
  rw [List.getElem?_toArray, nodes_getElem?, Nat.zero_add]
  cases p[place.item]? with
  | none => exact .inl rfl
  | some item =>
      simp only [Option.map_some]
      split
      · exact .inl rfl
      · split_ifs
        · exact .inr (.inr rfl)
        · exact .inr (.inl rfl)
        · exact .inl rfl

/-- The last item that a state waits for, and the first byte of it is among what may come. -/
structure Front (index : Nat) (state : List Place) : Prop where
  awaits : ⟨index, 0, 0⟩ ∈ state
  bound : ∀ place ∈ state, place.item ≤ index

variable {all : List (List Place)}

theorem item_of_mem_next (single : item ≠ .run) (stands : p[index]? = some item) {b : UInt8}
    (bound : ∀ place ∈ state, place.item ≤ index) {place : Place}
    (member : place ∈ next (nodes 0 p).toArray state b) :
    place.item ≤ index ∨ place.item ≤ gate p (index + 1) ∧
      after index (p.drop index) ⊆ next (nodes 0 p).toArray state b := by
  rw [next, List.mem_eraseDups, List.mem_flatMap] at member
  obtain ⟨before, among, follows⟩ := member
  have whole : follow (nodes 0 p).toArray b before ⊆ next (nodes 0 p).toArray state b := by
    intro other later
    rw [next, List.mem_eraseDups]
    exact List.mem_flatMap_of_mem among later
  rcases follow_cases p b before with same | same | same
  · rw [same] at follows
    exact absurd follows List.not_mem_nil
  · rw [same] at follows
    rw [List.mem_singleton.mp follows]
    exact .inl (bound before among)
  · rw [same] at follows whole
    have below := item_of_mem_after follows
    rcases Nat.lt_or_eq_of_le (bound before among) with earlier | last
    · refine .inl (Nat.le_trans below ?_)
      rw [← gate_of_single single stands]
      exact gate_mono earlier
    · rw [last] at below whole
      exact .inr ⟨below, whole⟩

theorem mem_samples {form : Form} {range : UInt8 × UInt8} (stands : p[index]? = some item)
    (formed : form ∈ item.forms) (member : range ∈ form) :
    range.1 ∈ samples (nodes 0 p).toArray := by
  have node : (⟨item.forms, after index (p.drop index)⟩ : Node) ∈ nodes 0 p := by
    apply List.mem_of_getElem? (i := index)
    rw [nodes_getElem?, stands, Nat.zero_add]
    rfl
  rw [samples, List.mem_eraseDups]
  apply List.mem_cons_of_mem
  apply List.mem_flatMap_of_mem node
  apply List.mem_flatMap_of_mem formed
  exact List.mem_flatMap_of_mem member List.mem_cons_self

/-- A byte that a place admits leads to the next byte of the form, or past the item. -/
theorem follow_of_admits {form : Form} {others : List Form} (stands : p[index]? = some item)
    (forms : item.forms = form :: others) {byte : Nat} (within : byte < form.length)
    (ordered : form[byte].1 ≤ form[byte].2) :
    follow (nodes 0 p).toArray form[byte].1 ⟨index, 0, byte⟩ =
      if (form.drop (byte + 1)).isEmpty then after index (p.drop index)
      else [⟨index, 0, byte + 1⟩] := by
  unfold follow
  rw [List.getElem?_toArray, nodes_getElem?, stands, Nat.zero_add]
  simp only [Option.map_some, forms, List.getD_cons_zero]
  rw [List.drop_eq_getElem_cons within]
  simp only [UInt8.le_refl, ordered, decide_true, Bool.and_self, if_true]

section Progress

variable (explored : ∀ state ∈ all,
  Explored (nodes 0 p).toArray (samples (nodes 0 p).toArray) all state)
  (single : item ≠ .run) (stands : p[index]? = some item)

include explored single stands

/-- A state after which an item for one character may be over is followed by one that waits for the
first byte of the next such item. -/
theorem exists_front_of_after {b : UInt8} (sampled : b ∈ samples (nodes 0 p).toArray)
    (seen : state ∈ all) (bound : ∀ place ∈ state, place.item ≤ index)
    (past : after index (p.drop index) ⊆ next (nodes 0 p).toArray state b) :
    ∃ state ∈ all, Front (gate p (index + 1)) state := by
  have awaits : ⟨gate p (index + 1), 0, 0⟩ ∈ next (nodes 0 p).toArray state b := by
    apply past
    rw [after_of_single single stands]
    exact mem_awaiting _ _
  refine ⟨_, explored state seen b sampled (List.ne_nil_of_mem awaits), awaits, ?_⟩
  intro place member
  rcases item_of_mem_next single stands bound member with near | ⟨near, -⟩
  · exact Nat.le_trans near (Nat.le_trans (Nat.le_succ index) le_stop)
  · exact near

theorem exists_front {form : Form} {others : List Form} (forms : item.forms = form :: others)
    (ordered : ∀ range ∈ form, range.1 ≤ range.2) (seen : state ∈ all)
    (bound : ∀ place ∈ state, place.item ≤ index) {byte : Nat}
    (waits : ⟨index, 0, byte⟩ ∈ state) (within : byte < form.length) :
    ∃ state ∈ all, Front (gate p (index + 1)) state := by
  -- The bytes of the form are read one by one, until it or another form of the item is read.
  induction left : form.length - byte generalizing state byte with
  | zero => omega
  | succ left inductionHypothesis =>
      have follows := follow_of_admits stands forms within (ordered _ (List.getElem_mem within))
      have carried : follow (nodes 0 p).toArray form[byte].1 ⟨index, 0, byte⟩ ⊆
          next (nodes 0 p).toArray state form[byte].1 := by
        intro place later
        rw [next, List.mem_eraseDups]
        exact List.mem_flatMap_of_mem waits later
      have sampled : form[byte].1 ∈ samples (nodes 0 p).toArray :=
        mem_samples stands (forms ▸ List.mem_cons_self) (List.getElem_mem within)
      by_cases more : byte + 1 < form.length
      · have onward : ⟨index, 0, byte + 1⟩ ∈ next (nodes 0 p).toArray state form[byte].1 := by
          have remaining : form.drop (byte + 1) ≠ [] := by
            rw [ne_eq, List.drop_eq_nil_iff]
            omega
          rw [follows, if_neg (List.isEmpty_iff.not.mpr remaining)] at carried
          exact carried (List.mem_singleton_self _)
        by_cases near : ∀ place ∈ next (nodes 0 p).toArray state form[byte].1, place.item ≤ index
        · have found := explored state seen _ sampled (List.ne_nil_of_mem onward)
          exact inductionHypothesis found near onward more (by omega)
        · push Not at near
          obtain ⟨place, member, far⟩ := near
          rcases item_of_mem_next single stands bound member with below | ⟨-, past⟩
          · omega
          · exact exists_front_of_after explored single stands sampled seen bound past
      · have finished : form.drop (byte + 1) = [] := List.drop_eq_nil_of_le (by omega)
        rw [follows, finished, List.isEmpty_nil, if_pos rfl] at carried
        exact exists_front_of_after explored single stands sampled seen bound carried

end Progress

def last (state : List Place) : Nat := (state.map Place.item).foldr max 0

theorem Front.last_eq (front : Front index state) : last state = index := by
  apply Nat.le_antisymm
  · have bound := front.bound
    clear front
    induction state with
    | nil => exact Nat.zero_le _
    | cons place state inductionHypothesis =>
        obtain ⟨first, others⟩ := List.forall_mem_cons.mp bound
        exact Nat.max_le.mpr ⟨first, inductionHypothesis others⟩
  · have awaits := front.awaits
    clear front
    induction state with
    | nil => exact absurd awaits List.not_mem_nil
    | cons place state inductionHypothesis =>
        rcases List.mem_cons.mp awaits with rfl | later
        · exact Nat.le_max_left _ _
        · exact Nat.le_trans (inductionHypothesis later) (Nat.le_max_right _ _)

/-- A closed set of states has one for each item for one character, and one for the end. -/
theorem exists_lasts (explored : ∀ state ∈ all,
      Explored (nodes 0 p).toArray (samples (nodes 0 p).toArray) all state)
    (front : ∃ state ∈ all, Front (gate p index) state) :
    ∃ lasts : List Nat, lasts.length = (singles (p.drop index)).length + 1 ∧ lasts.Nodup ∧
      (∀ n ∈ lasts, index ≤ n) ∧ lasts ⊆ all.map last := by
  induction rest : p.drop index generalizing index with
  | nil =>
      obtain ⟨state, seen, front⟩ := front
      have final : gate p index = index := by rw [gate, rest, stop]
      rw [final] at front
      have among : index ∈ all.map last := by
        rw [← front.last_eq]
        exact List.mem_map_of_mem seen
      exact ⟨[index], rfl, List.nodup_singleton _, by simp,
        List.cons_subset.mpr ⟨among, List.nil_subset _⟩⟩
  | cons item items inductionHypothesis =>
      have stands : p[index]? = some item := by
        rw [← List.head?_drop, rest, List.head?_cons]
      have later : p.drop (index + 1) = items := by
        rw [← List.tail_drop, rest, List.tail_cons]
      by_cases repeated : item = .run
      · subst repeated
        rw [gate_of_run stands] at front
        obtain ⟨lasts, length, distinct, past, among⟩ := inductionHypothesis front later
        exact ⟨lasts, length, distinct, fun n member => Nat.le_of_succ_le (past n member), among⟩
      · obtain ⟨state, seen, front⟩ := front
        rw [gate_of_single repeated stands] at front
        obtain ⟨form, others, forms, filled, ordered⟩ := forms_cons item
        obtain ⟨lasts, length, distinct, past, among⟩ := inductionHypothesis
          (exists_front explored repeated stands forms ordered seen front.bound front.awaits
            (List.length_pos_of_ne_nil filled)) later
        refine ⟨index :: lasts, ?_, ?_, ?_, ?_⟩
        · rw [singles_cons repeated, List.length_cons, length, List.length_cons]
        · refine List.nodup_cons.mpr ⟨fun member => ?_, distinct⟩
          exact absurd (past index member) (Nat.not_succ_le_self index)
        · exact List.forall_mem_cons.mpr
            ⟨Nat.le_refl index, fun n member => Nat.le_of_succ_le (past n member)⟩
        · refine List.cons_subset.mpr ⟨?_, among⟩
          rw [← front.last_eq]
          exact List.mem_map_of_mem seen

end Fronts

/-- A pattern that is not refused has fewer items for one character than states are allowed. -/
theorem length_singles_lt (small : p.isTooLarge = false) : (singles p).length < stateLimit := by
  obtain ⟨all, larger, most, explored⟩ := exists_explored_of_exceeds small
    (by rw [List.length_singleton]; decide) (Nat.le_refl _) fun state member => .inl member
  have start : Front (gate p 0) (awaiting 0 p).eraseDups := by
    refine ⟨List.mem_eraseDups.mpr (mem_awaiting 0 p), fun place member => ?_⟩
    exact item_of_mem_awaiting (List.mem_eraseDups.mp member)
  obtain ⟨lasts, length, distinct, -, among⟩ :=
    exists_lasts explored ⟨_, larger List.mem_cons_self, start⟩
  have bounded := (List.subperm_of_subset distinct among).length_le
  rw [List.length_map, length, List.drop_zero] at bounded
  omega

end RecordSearch.Pattern
