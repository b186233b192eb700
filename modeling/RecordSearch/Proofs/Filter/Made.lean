import RecordSearch.Proofs.Filter.Asks
import RecordSearch.Proofs.Pattern.Expression

/-!
# What queries are made of

The query of a filter is put together from forms that an index can be asked: a phrase has two words
at least, and the text of a pattern is a regular expression that is read as the pattern.  Each form
is about an attribute that the filter asks for.
-/

namespace RecordSearch.Query

open RecordSearch.Attempt RecordSearch.Text
open RecordSearch.Time (Instant)

inductive Made (asked : Attribute → Prop) : Query → Prop where
  | all : Made asked .all
  | nothing : Made asked .nothing
  | boolean {must should mustNot : List Query} (musts : ∀ q ∈ must, Made asked q)
      (shoulds : ∀ q ∈ should, Made asked q) (mustNots : ∀ q ∈ mustNot, Made asked q) :
      Made asked (.boolean must should mustNot)
  | term {a : Attribute} (word : String) (asks : asked a) : Made asked (.term a word)
  | phrase {a : Attribute} {words : List (Nat × String)} (asks : asked a)
      (several : 2 ≤ words.length) : Made asked (.phrase a words)
  | keywords {a : Attribute} (lower upper : Bound String) (asks : asked a) :
      Made asked (.keywords a lower upper)
  | dates {a : Attribute} (lower upper : Bound Int) (asks : asked a) :
      Made asked (.dates a lower upper)
  | pattern {a : Attribute} {p : Pattern} (asks : asked a)
      (reads : Expression.read p.source.toList = some (p.map Pattern.Item.piece)) :
      Made asked (.pattern a p)

variable {asked : Attribute → Prop} {q : Query} {kind : Kind} {a : Attribute} {registry : Registry}
  {v : Literal} {lower upper : Bound Literal} {text : String}

theorem Made.negate (made : q.Made asked) : q.negate.Made asked :=
  .boolean (List.forall_mem_singleton.mpr .all) (List.forall_mem_nil _)
    (List.forall_mem_singleton.mpr made)

theorem made_holding (asks : asked a) : (holding kind a).Made asked := by
  have anything : (Query.pattern a .anything).Made asked := by
    refine .pattern asks (Pattern.read_source ?_)
    exact List.forall_mem_singleton.mpr trivial
  cases kind with
  | date => exact .dates .unbounded .unbounded asks
  | text | keyword => exact anything

theorem made_ofWords {words : List (Nat × String)} (asks : asked a) :
    (ofWords a words).Made asked := by
  rcases words with _ | ⟨w, _ | ⟨w', others⟩⟩
  · show (holding .text a).Made asked
    exact made_holding asks
  · exact .term w.2 asks
  · refine .phrase asks ?_
    rw [List.length_cons, List.length_cons]
    omega

theorem made_ofPattern {p : Pattern} {fault : CompileFault} (asks : asked a)
    (readable : ∀ item ∈ p, item.Readable) (compiled : ofPattern a p fault = .ok q) :
    q.Made asked := by
  unfold ofPattern at compiled
  split at compiled
  · cases compiled
  · cases compiled
    exact .pattern asks (Pattern.read_source readable)

theorem made_ofValue (asks : asked a) (compiled : ofValue kind a v = .ok q) : q.Made asked := by
  cases kind with
  | keyword =>
      cases compiled
      exact .term v.asText asks
  | text =>
      cases compiled
      exact made_ofWords asks
  | date =>
      rw [ofValue] at compiled
      cases read : v.asInstant? with
      | none => simp [read] at compiled
      | some at' =>
          simp only [read] at compiled
          cases compiled
          exact .dates _ _ asks

theorem made_ofRange (asks : asked a) (compiled : ofRange kind a lower upper = .ok q) :
    q.Made asked := by
  cases kind with
  | text => cases compiled
  | keyword =>
      cases compiled
      exact .keywords _ _ asks
  | date =>
      obtain ⟨lower', -, later⟩ := bind_eq_ok compiled
      obtain ⟨upper', -, done⟩ := bind_eq_ok later
      cases done
      exact .dates lower' upper' asks

theorem made_ofPeriod {lower upper : Bound Instant} (asks : asked a)
    (compiled : ofPeriod kind a lower upper = .ok q) : q.Made asked := by
  cases kind with
  | text | keyword => cases compiled
  | date =>
      cases compiled
      exact .dates _ _ asks

section Clusters

variable {c : Cluster}

theorem Cluster.readable_ofWord {word : String} : ∀ item ∈ Pattern.ofWord word, item.Readable := by
  intro item member
  obtain ⟨c, -, rfl⟩ := List.mem_map.mp member
  trivial

theorem Cluster.readable_joinWords {words : List Token} :
    ∀ item ∈ joinWords words, item.Readable := by
  induction words with
  | nil => exact List.forall_mem_nil _
  | cons t words inductionHypothesis =>
      cases words with
      | nil => exact readable_ofWord
      | cons t' words =>
          intro item member
          rcases List.mem_append.mp member with first | later
          · exact readable_ofWord item first
          · rcases List.mem_cons.mp later with rfl | others
            · trivial
            · exact inductionHypothesis item others

theorem Cluster.readable_pattern : ∀ item ∈ c.pattern, item.Readable := by
  have run {side : Bool} :
      ∀ item ∈ (if side then [Pattern.Item.run] else []), item.Readable := by
    cases side with
    | false => exact List.forall_mem_nil _
    | true => exact List.forall_mem_singleton.mpr trivial
  intro item member
  rcases List.mem_append.mp member with before | last
  · rcases List.mem_append.mp before with first | words
    · exact run item first
    · exact readable_joinWords item words
  · exact run item last

theorem made_cluster (asks : asked a) (compiled : c.query a = .ok q) : q.Made asked := by
  unfold Cluster.query at compiled
  split at compiled
  · next t plain =>
      cases compiled
      exact .term t.word asks
  · exact made_ofPattern asks Cluster.readable_pattern compiled

theorem made_ofProsePattern (asks : asked a) (compiled : ofProsePattern a text = .ok q) :
    q.Made asked := by
  unfold ofProsePattern at compiled
  extract_lets analysis found at compiled
  have each {queries : List Query} (queried : found.mapM (Cluster.query a) = .ok queries) :
      ∀ q ∈ queries, q.Made asked := by
    intro q member
    obtain ⟨c, -, compiled'⟩ := (mem_of_mapM queried).mp member
    exact made_cluster asks compiled'
  split at compiled
  · cases compiled
    exact made_ofWords asks
  · split at compiled
    · cases compiled
    · next queried =>
        cases compiled
        exact each queried _ List.mem_cons_self
    · next queried =>
        cases compiled
        exact .boolean (each queried) (List.forall_mem_nil _) (List.forall_mem_nil _)

end Clusters

theorem made_ofLike {ignoreCase : Bool} (asks : asked a)
    (compiled : ofLike kind a text ignoreCase = .ok q) : q.Made asked := by
  cases kind with
  | text => exact made_ofProsePattern asks compiled
  | keyword => exact made_ofPattern asks Pattern.readable_ofLike compiled
  | date => cases compiled

theorem made_ofPredicate {p : Predicate} (asks : asked a)
    (compiled : ofPredicate kind a p = .ok q) : q.Made asked := by
  cases p with
  | compare op v =>
      cases op with
      | eq => exact made_ofValue asks compiled
      | notEq =>
          obtain ⟨q', compiled', rfl⟩ := map_eq_ok compiled
          exact (made_ofValue asks compiled').negate
      | lt | le | gt | ge => exact made_ofRange asks compiled
  | like text ignoreCase => exact made_ofLike asks compiled
  | oneOf values =>
      obtain ⟨queries, compiled', rfl⟩ := map_eq_ok compiled
      refine .boolean (List.forall_mem_nil _) (fun q member => ?_) (List.forall_mem_nil _)
      obtain ⟨v, -, compiled''⟩ := (mem_of_mapM compiled').mp member
      exact made_ofValue asks compiled''
  | between lower upper => exact made_ofRange asks compiled
  | isNull =>
      cases compiled
      exact (made_holding asks).negate
  | before at' | after at' | during start stop => exact made_ofPeriod asks compiled

/-- The query of a filter is made of what an index can be asked, about the attributes that the
filter asks for. -/
theorem made_ofFilter {f : Filter} (compiled : ofFilter registry f = .ok q)
    (asks : ∀ a, f.Asks a.name → asked a) : q.Made asked := by
  induction f using Filter.inductionOn generalizing q with
  | everything =>
      cases compiled
      exact .all
  | nothing =>
      cases compiled
      exact .nothing
  | all fs inductionHypothesis =>
      rw [ofFilter, ofFilters_eq_mapM] at compiled
      obtain ⟨qs, compiled', rfl⟩ := map_eq_ok compiled
      refine .boolean (fun q member => ?_) (List.forall_mem_nil _) (List.forall_mem_nil _)
      obtain ⟨f, among, compiled''⟩ := (mem_of_mapM compiled').mp member
      exact inductionHypothesis f among compiled'' fun a within => asks a (.all among within)
  | any fs inductionHypothesis =>
      rw [ofFilter, ofFilters_eq_mapM] at compiled
      obtain ⟨qs, compiled', rfl⟩ := map_eq_ok compiled
      refine .boolean (List.forall_mem_nil _) (fun q member => ?_) (List.forall_mem_nil _)
      obtain ⟨f, among, compiled''⟩ := (mem_of_mapM compiled').mp member
      exact inductionHypothesis f among compiled'' fun a within => asks a (.any among within)
  | not f inductionHypothesis =>
      rw [ofFilter] at compiled
      obtain ⟨q', compiled', rfl⟩ := map_eq_ok compiled
      exact (inductionHypothesis compiled' fun a within => asks a (.not within)).negate
  | test name p =>
      rw [ofFilter] at compiled
      unfold ofTest at compiled
      cases named : Attribute.ofName? name with
      | some a =>
          rw [named] at compiled
          have within : (Filter.test name p).Asks a.name :=
            Attribute.name_of_ofName? named ▸ .test p
          exact made_ofPredicate (asks a within) compiled
      | none =>
          rw [named] at compiled
          by_cases empty : p = .oneOf []
          · simp only [empty, if_true] at compiled
            cases compiled
            exact .boolean (List.forall_mem_nil _) (List.forall_mem_nil _) (List.forall_mem_nil _)
          · simp [empty] at compiled

end RecordSearch.Query
