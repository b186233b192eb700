import Mathlib.Algebra.Ring.Nat
import RecordSearch.Text.Utf8

/-!
# Decoding

Decoding gives a text exactly if the bytes are the encoded form of that text.  Behind the first
byte of a character, what was read so far leaves an interval of numbers, and each further byte
narrows it.  All numbers in it are those of characters, so that no byte sequence is taken for a
character that has another form.
-/

namespace RecordSearch.Text.Utf8

variable {b : UInt8} {c : Char} {p : Pending} {tail : List UInt8} {v : Nat}

section Numbers

theorem isValidChar_toNat (c : Char) : c.toNat.isValidChar := c.valid

theorem eq_ofNat_iff {n : Nat} (valid : n.isValidChar) : c = Char.ofNat n ↔ c.toNat = n := by
  constructor
  · rintro rfl
    rw [Char.ofNat, dif_pos valid]
    rfl
  · rintro rfl
    exact c.ofNat_toNat.symm

/-- The last `due` bytes of the character with a number. -/
def tails : Nat → Nat → List UInt8
  | 0, _ => []
  | due + 1, v => UInt8.ofNat (v / 64 ^ due % 64 + 128) :: tails due v

/-- How many bytes of the character with a number come behind the first one. -/
def extra (v : Nat) : Nat :=
  if v < 0x80 then 0 else if v < 0x800 then 1 else if v < 0x10000 then 2 else 3

/-- The first byte of the character with a number. -/
def lead (v : Nat) : Nat :=
  if v < 0x80 then v
  else if v < 0x800 then v / 64 + 0xC0
  else if v < 0x10000 then v / 4096 + 0xE0
  else v / 262144 + 0xF0

theorem utf8EncodeChar_eq (c : Char) :
    String.utf8EncodeChar c = UInt8.ofNat (lead c.toNat) :: tails (extra c.toNat) c.toNat := by
  have valid := isValidChar_toNat c
  unfold String.utf8EncodeChar lead extra
  simp only [Char.toNat_val, Nat.le_iff_lt_add_one, Nat.reduceAdd]
  generalize c.toNat = v at valid ⊢
  by_cases one : v < 0x80
  · simp [one, tails]
  by_cases two : v < 0x800
  · have high : v / 64 % 32 = v / 64 := by omega
    simp [one, two, tails, high]
  by_cases three : v < 0x10000
  · have high : v / 4096 % 16 = v / 4096 := by omega
    simp [one, two, three, tails, high]
  · have high : v / 262144 % 8 = v / 262144 := by omega
    simp [one, two, three, tails, high]

theorem utf8EncodeChar_eq_cons_iff :
    String.utf8EncodeChar c = b :: tail ↔
      lead c.toNat = b.toNat ∧ tail = tails (extra c.toNat) c.toNat := by
  have valid := isValidChar_toNat c
  have byte : lead c.toNat < 256 := by
    unfold lead
    split_ifs <;> omega
  rw [utf8EncodeChar_eq, List.cons.injEq, ← UInt8.toNat_inj, UInt8.toNat_ofNat',
    Nat.mod_eq_of_lt byte, eq_comm (a := tail)]

end Numbers

section Steps

/-- The numbers of the characters that a pending one may become. -/
def Pending.Awaits (p : Pending) (v : Nat) : Prop :=
  v / 64 ^ (p.due - 1) / 64 = p.payload ∧
    p.low.toNat ≤ v / 64 ^ (p.due - 1) % 64 + 128 ∧ v / 64 ^ (p.due - 1) % 64 + 128 ≤ p.high.toNat

structure Pending.Sound (p : Pending) : Prop where
  due : 0 < p.due
  low : 128 ≤ p.low.toNat
  high : p.high.toNat ≤ 191
  valid : ∀ v, p.Awaits v → v.isValidChar

namespace Step

def Sound : Step → Prop
  | more p => p.Sound
  | _ => True

/-- The bytes that may come behind a step, and the character that they complete. -/
def Admits (c : Char) (tail : List UInt8) : Step → Prop
  | done c' => c = c' ∧ tail = []
  | more p => p.Awaits c.toNat ∧ tail = tails p.due c.toNat
  | refused => False

end Step

structure Pending.Begins (n : Nat) (p : Pending) : Prop where
  sound : p.Sound
  awaits : ∀ v, v.isValidChar → (p.Awaits v ↔ lead v = n)
  due : ∀ v, lead v = n → extra v = p.due

/-- What a first byte `n` may be: a whole character, none, or the first of several bytes. -/
inductive Starts (n : Nat) : Step → Prop where
  | whole (ascii : n < 0x80) : Starts n (.done (Char.ofNat n))
  | outside (range : 0x80 ≤ n ∧ n < 0xC2 ∨ 0xF4 < n) : Starts n .refused
  | begins {p : Pending} (begins : p.Begins n) : Starts n (.more p)

theorem Starts.ite {n : Nat} {condition : Prop} [Decidable condition] {step other : Step}
    (here : condition → Starts n step) (there : ¬ condition → Starts n other) :
    Starts n (if condition then step else other) := by
  split
  · exact here (by assumption)
  · exact there (by assumption)

theorem starts_first (b : UInt8) : Starts b.toNat (first b) := by
  have byte := b.toNat_lt_size
  unfold first
  simp only [UInt8.lt_iff_toNat_lt, beq_iff_eq, ← UInt8.toNat_inj, UInt8.reduceToNat]
  refine
    .ite .whole fun _ =>
    .ite (fun _ => .outside (by omega)) fun _ =>
    .ite (fun _ => .begins ?_) fun _ =>
    .ite (fun _ => .begins ?_) fun _ =>
    .ite (fun _ => .begins ?_) fun _ =>
    .ite (fun _ => .begins ?_) fun _ =>
    .ite (fun _ => .begins ?_) fun _ =>
    .ite (fun _ => .begins ?_) fun _ =>
    .ite (fun _ => .begins ?_) fun _ => .outside (by omega)
  all_goals
    refine ⟨⟨by simp, by simp, by simp, fun v => ?_⟩, fun v valid => ?_, fun v => ?_⟩
    · simp [Pending.Awaits, Nat.isValidChar]
      omega
    · simp [Pending.Awaits, lead]
      split_ifs <;> omega
    · simp [lead, extra]
      split_ifs <;> omega

theorem first_sound (b : UInt8) : (first b).Sound := by
  have starts := starts_first b
  generalize first b = step at starts ⊢
  cases starts with
  | whole => trivial
  | outside => trivial
  | begins begins => exact begins.sound

theorem first_admits_iff : (first b).Admits c tail ↔ String.utf8EncodeChar c = b :: tail := by
  have valid := isValidChar_toNat c
  have starts := starts_first b
  rw [utf8EncodeChar_eq_cons_iff]
  generalize first b = step at starts ⊢
  cases starts with
  | whole ascii =>
      have whole : lead c.toNat = b.toNat ↔ c.toNat = b.toNat := by
        unfold lead
        split_ifs <;> omega
      rw [Step.Admits, eq_ofNat_iff (.inl (by omega)), whole]
      refine and_congr_right fun number => ?_
      rw [number, extra, if_pos ascii, tails]
  | outside range =>
      rw [Step.Admits, false_iff]
      rintro ⟨first, -⟩
      revert first
      unfold lead
      split_ifs <;> omega
  | begins begins =>
      rw [Step.Admits, begins.awaits _ valid]
      refine and_congr_right fun first => ?_
      rw [begins.due _ first]

/-- A byte that fits a pending character leaves the numbers that continue with it. -/
theorem Pending.Sound.awaits_tail_iff (sound : p.Sound) :
    p.Awaits v ∧ tails p.due v = b :: tail ↔ (p.low ≤ b ∧ b ≤ p.high) ∧
      v / 64 ^ (p.due - 1) = p.payload * 64 + b.toNat % 64 ∧ tail = tails (p.due - 1) v := by
  obtain ⟨positive, low, high, -⟩ := sound
  have behind : tails p.due v =
      UInt8.ofNat (v / 64 ^ (p.due - 1) % 64 + 128) :: tails (p.due - 1) v := by
    rw [← tails, Nat.succ_eq_add_one, Nat.sub_add_cancel positive]
  rw [behind, List.cons.injEq, ← UInt8.toNat_inj, UInt8.toNat_ofNat', eq_comm (a := tail),
    UInt8.le_iff_toNat_le, UInt8.le_iff_toNat_le, Awaits]
  generalize v / 64 ^ (p.due - 1) = x
  constructor
  · rintro ⟨⟨payload, least, most⟩, byte, rest⟩
    exact ⟨by omega, by omega, rest⟩
  · rintro ⟨fits, number, rest⟩
    exact ⟨by omega, by omega, rest⟩

theorem Pending.Sound.next_spec (sound : p.Sound) (b : UInt8) :
    (p.next b).Sound ∧ ∀ c tail, (p.next b).Admits c tail ↔
      p.Awaits c.toNat ∧ tails p.due c.toNat = b :: tail := by
  simp only [sound.awaits_tail_iff]
  unfold Pending.next
  by_cases fits : p.low ≤ b ∧ b ≤ p.high
  · rw [if_pos (by simpa using fits)]
    simp only [fits, and_true, true_and]
    -- A number with the payload that `b` adds is one that was awaited.
    have awaited {v : Nat} (number : v / 64 ^ (p.due - 1) = p.payload * 64 + b.toNat % 64) :
        v.isValidChar :=
      sound.valid v (sound.awaits_tail_iff.mpr ⟨fits, number, rfl⟩).1
    by_cases last : p.due ≤ 1
    · have zero : p.due - 1 = 0 := by omega
      rw [if_pos last]
      refine ⟨trivial, fun c tail => ?_⟩
      rw [zero, Nat.pow_zero] at awaited
      rw [Step.Admits, eq_ofNat_iff (awaited (Nat.div_one _)), zero, Nat.pow_zero, Nat.div_one,
        tails]
    · have more (v : Nat) : v / 64 ^ (p.due - 1 - 1) / 64 = v / 64 ^ (p.due - 1) := by
        rw [Nat.div_div_eq_div_mul, ← Nat.pow_succ, Nat.succ_eq_add_one,
          Nat.sub_add_cancel (show 1 ≤ p.due - 1 by omega)]
      have awaits (v : Nat) :
          (⟨p.due - 1, 0x80, 0xBF, p.payload * 64 + b.toNat % 64, p.seen + 1⟩ : Pending).Awaits v ↔
            v / 64 ^ (p.due - 1) = p.payload * 64 + b.toNat % 64 := by
        rw [Awaits, more]
        simp
        omega
      rw [if_neg last]
      refine ⟨⟨by simp; omega, by simp, by simp, fun v member => awaited ((awaits v).mp member)⟩,
        fun c tail => ?_⟩
      rw [Step.Admits, awaits]
  · rw [if_neg (by simpa using fits)]
    exact ⟨trivial, fun c tail => by simp [Step.Admits, fits]⟩

end Steps

section Runs

variable {bytes rest : List UInt8} {s : List Char} {done result : List Char} {index : Nat}

/-- What the bytes behind a step are read as. -/
def Step.Leaves (bytes : List UInt8) (s : List Char) (step : Step) : Prop :=
  ∃ c t tail, s = c :: t ∧ step.Admits c tail ∧ tail ++ encode t = bytes

theorem encode_cons (c : Char) (s : List Char) :
    encode (c :: s) = String.utf8EncodeChar c ++ encode s := rfl

theorem encode_eq_cons_iff : encode s = b :: rest ↔ (first b).Leaves rest s := by
  simp only [Step.Leaves, first_admits_iff]
  constructor
  · intro same
    cases s with
    | nil => cases same
    | cons c t =>
        rw [encode_cons, utf8EncodeChar_eq, List.cons_append, List.cons.injEq] at same
        obtain ⟨rfl, rest⟩ := same
        exact ⟨c, t, _, rfl, utf8EncodeChar_eq c, rest⟩
  · rintro ⟨c, t, tail, rfl, encoded, rfl⟩
    rw [encode_cons, encoded, List.cons_append]

theorem Step.leaves_done_iff :
    (Step.done c).Leaves bytes s ↔ ∃ t, s = c :: t ∧ encode t = bytes := by
  constructor
  · rintro ⟨_, t, tail, rfl, ⟨rfl, rfl⟩, same⟩
    exact ⟨t, rfl, same⟩
  · rintro ⟨t, rfl, same⟩
    exact ⟨c, t, [], rfl, ⟨rfl, rfl⟩, same⟩

theorem Step.not_leaves_refused : ¬ refused.Leaves bytes s := by
  rintro ⟨_, _, _, -, admits, -⟩
  exact admits

theorem Pending.Sound.exists_tails (sound : p.Sound) (v : Nat) :
    ∃ b tail, tails p.due v = b :: tail := by
  obtain ⟨_, successor⟩ := Nat.exists_eq_add_one.mpr sound.due
  rw [successor]
  exact ⟨_, _, rfl⟩

theorem Pending.Sound.not_leaves_nil (sound : p.Sound) : ¬ (Step.more p).Leaves [] s := by
  rintro ⟨c, t, tail, -, ⟨-, rfl⟩, same⟩
  obtain ⟨b, tail, some⟩ := sound.exists_tails c.toNat
  rw [some] at same
  cases same

theorem Pending.Sound.leaves_cons_iff (sound : p.Sound) :
    (Step.more p).Leaves (b :: rest) s ↔ (p.next b).Leaves rest s := by
  simp only [Step.Leaves, (sound.next_spec b).2]
  constructor
  · rintro ⟨c, t, tail, rfl, ⟨awaits, rfl⟩, same⟩
    obtain ⟨b', tail, some⟩ := sound.exists_tails c.toNat
    rw [some, List.cons_append, List.cons.injEq] at same
    obtain ⟨rfl, same⟩ := same
    exact ⟨c, t, tail, rfl, ⟨awaits, some⟩, same⟩
  · rintro ⟨c, t, tail, rfl, ⟨awaits, started⟩, rfl⟩
    exact ⟨c, t, b :: tail, rfl, ⟨awaits, started.symm⟩, rfl⟩

def resume (fault : Fault) (index : Nat) (done : List Char) (rest : List UInt8) :
    Step → Except Fault (List Char)
  | .done c => decodeFrom index none (c :: done) rest
  | .more p => decodeFrom index (some p) done rest
  | .refused => .error fault

theorem decodeFrom_none_cons : decodeFrom index none done (b :: rest) =
    resume (.invalid 1 index) (index + 1) done rest (first b) := by
  rw [decodeFrom]
  cases first b <;> rfl

theorem decodeFrom_some_cons : decodeFrom index (some p) done (b :: rest) =
    resume (.invalid p.seen (index - p.seen)) (index + 1) done rest (p.next b) := by
  rw [decodeFrom]
  cases p.next b <;> rfl

theorem decodeFrom_eq_ok_iff (bytes : List UInt8) (index : Nat) (done : List Char) :
    (decodeFrom index none done bytes = .ok result ↔
      ∃ s, encode s = bytes ∧ result = done.reverse ++ s) ∧
    ∀ p : Pending, p.Sound → (decodeFrom index (some p) done bytes = .ok result ↔
      ∃ s, (Step.more p).Leaves bytes s ∧ result = done.reverse ++ s) := by
  induction bytes generalizing index done with
  | nil =>
      refine ⟨⟨fun read => ?_, ?_⟩, fun p sound => ⟨fun read => ?_, ?_⟩⟩
      · cases read
        exact ⟨[], rfl, (List.append_nil _).symm⟩
      · rintro ⟨s, empty, rfl⟩
        cases s with
        | nil => rw [List.append_nil, decodeFrom]
        | cons c t =>
            rw [encode_cons, utf8EncodeChar_eq] at empty
            cases empty
      · cases read
      · rintro ⟨s, leaves, -⟩
        exact absurd leaves sound.not_leaves_nil
  | cons b rest inductionHypothesis =>
      have resumed (fault : Fault) {step : Step} (sound : step.Sound) :
          resume fault (index + 1) done rest step = .ok result ↔
            ∃ s, step.Leaves rest s ∧ result = done.reverse ++ s := by
        cases step with
        | done c =>
            rw [resume, (inductionHypothesis _ _).1]
            simp only [Step.leaves_done_iff, List.reverse_cons, List.append_assoc]
            constructor
            · rintro ⟨t, same, rfl⟩
              exact ⟨c :: t, ⟨t, rfl, same⟩, rfl⟩
            · rintro ⟨_, ⟨t, rfl, same⟩, rfl⟩
              exact ⟨t, same, rfl⟩
        | more p => exact (inductionHypothesis _ _).2 p sound
        | refused => simp [resume, Step.not_leaves_refused]
      refine ⟨?_, fun p sound => ?_⟩
      · simp only [encode_eq_cons_iff]
        rw [decodeFrom_none_cons, resumed _ (first_sound b)]
      · simp only [sound.leaves_cons_iff]
        rw [decodeFrom_some_cons, resumed _ (sound.next_spec b).1]

/-- The bytes of a text, and no others, are decoded, and to that text. -/
theorem decode_eq_ok_iff : decode bytes = .ok s ↔ encode s = bytes := by
  rw [decode, (decodeFrom_eq_ok_iff bytes 0 []).1]
  constructor
  · rintro ⟨_, same, rfl⟩
    exact same
  · intro same
    exact ⟨s, same, rfl⟩

end Runs

end RecordSearch.Text.Utf8
