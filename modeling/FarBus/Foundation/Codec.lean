/-
  Foundation/Codec.lean --- writers that append a byte format, parsers that
  invert it.

  A FORMAT for a type is a total function `enc` to byte strings together with
  the set `wf` of the values it is used on.  A writer extends a buffer or fails,
  a parser consumes a prefix of its input and returns the rest:

      Writes put wf enc   : put buf x = ok buf' <-> wf x /\ buf' = buf ++ enc x
      Decodes p wf enc    : wf x -> p (enc x ++ r) = ok (x, r), and
                            p bs = ok (x, r) -> wf x /\ bs = enc x ++ r

  The first half of `Decodes` is the round trip, with an arbitrary suffix so
  that it composes through concatenation.  The second half is the opposite
  direction: nothing but the format of a well-formed value is accepted, so the
  format is canonical.

  Formats compose field by field (`Decodes.field`): the parser of a record reads
  one field and continues with a parser of the records that have this field.
  What is already known of the record is carried as its condition, and the chain
  ends where the condition leaves one record (`Decodes.record`).
-/
import FarBus.Foundation.BigEndian

set_option autoImplicit false

namespace FarBus.Foundation

variable {ε α β γ : Type}

/-! ## Success of a fallible computation -/

theorem bind_eq_ok_iff (x : Except ε α) (f : α → Except ε β) (b : β) :
    (x >>= f) = .ok b ↔ ∃ a, x = .ok a ∧ f a = .ok b := by
  cases x with
  | error e => simp [bind, Except.bind]
  | ok a => simp [bind, Except.bind]

/-- A check in front of the rest of the computation. -/
theorem ite_error_eq_ok_iff (c : Prop) [Decidable c] (e : ε) (k : Except ε α) (x : α) :
    (if c then .error e else k) = .ok x ↔ ¬ c ∧ k = .ok x := by
  by_cases h : c
  · rw [if_pos h]
    exact ⟨fun hx => (by cases hx), fun hx => absurd h hx.1⟩
  · rw [if_neg h]
    exact ⟨fun hx => ⟨h, hx⟩, fun hx => hx.2⟩

/-! ## Writers -/

/-- `put` appends the format `enc` of the values `wf` to its buffer and fails on
every other value. -/
def Writes (put : Bytes → α → Except ε Bytes) (wf : α → Prop) (enc : α → Bytes) : Prop :=
  ∀ buf x buf', put buf x = .ok buf' ↔ wf x ∧ buf' = buf ++ enc x

/-- Writing the values of a list one after the other. -/
theorem Writes.foldlM {put : Bytes → α → Except ε Bytes} {wf : α → Prop}
    {enc : α → Bytes} (hput : Writes put wf enc) :
    Writes (fun buf (xs : List α) => xs.foldlM put buf) (fun xs => ∀ x ∈ xs, wf x)
      (fun xs => xs.flatMap enc) := by
  intro buf xs
  induction xs generalizing buf with
  | nil =>
      intro buf'
      simp [pure, Except.pure, eq_comm]
  | cons x xs ih =>
      intro buf'
      show List.foldlM put buf (x :: xs) = _ ↔ _
      rw [List.foldlM_cons]
      cases hx : put buf x with
      | error e =>
          have hwf : ¬ wf x := fun h => by
            have := (hput buf x (buf ++ enc x)).mpr ⟨h, rfl⟩
            rw [hx] at this
            cases this
          constructor
          · intro h
            cases h
          · rintro ⟨hall, _⟩
            exact absurd (hall x List.mem_cons_self) hwf
      | ok mid =>
          obtain ⟨hwf, rfl⟩ := (hput buf x mid).mp hx
          have hih := ih (buf ++ enc x) buf'
          simp only [bind, Except.bind, List.forall_mem_cons, List.flatMap_cons,
            ← List.append_assoc] at hih ⊢
          rw [hih]
          exact ⟨fun h => ⟨⟨hwf, h.1⟩, h.2⟩, fun h => ⟨h.1.2, h.2⟩⟩

/-! ## Parsers -/

/-- A step parser: consumes a prefix of the input and returns the rest. -/
abbrev Parser (ε α : Type) : Type := StateT Bytes (Except ε) α

namespace Parser

theorem bind_ok {p : Parser ε α} {k : α → Parser ε β} {bs bs' : Bytes} {x : α}
    (h : p bs = .ok (x, bs')) : (p >>= k) bs = k x bs' := by
  show (p bs >>= fun q => k q.1 q.2) = _
  rw [h]
  rfl

/-- A successful sequence is two successes, the second on what the first left. -/
theorem of_bind_ok {p : Parser ε α} {k : α → Parser ε β} {bs r : Bytes} {y : β}
    (h : (p >>= k) bs = .ok (y, r)) :
    ∃ x bs', p bs = .ok (x, bs') ∧ k x bs' = .ok (y, r) := by
  have h' : (p bs >>= fun q => k q.1 q.2) = .ok (y, r) := h
  cases hp : p bs with
  | error e =>
      rw [hp] at h'
      cases h'
  | ok q => exact ⟨q.1, q.2, rfl, by rw [hp] at h'; exact h'⟩

/-- Run the parser `n` times and collect the results in order. -/
def rep (p : Parser ε α) : Nat → Parser ε (List α)
  | 0 => pure []
  | n + 1 => do
      let x ← p
      let xs ← rep p n
      return x :: xs

/-- A parser that reads what each item shows reads what all of them show. -/
theorem rep_flatMap {p : Parser ε α} {enc : β → Bytes} {view : β → α} {items : List β}
    (h : ∀ item ∈ items, ∀ r, p (enc item ++ r) = .ok (view item, r)) (r : Bytes) :
    p.rep items.length (items.flatMap enc ++ r) = .ok (items.map view, r) := by
  induction items with
  | nil => rfl
  | cons item items ih =>
      have hitems := ih fun other mem => h other (List.mem_cons_of_mem _ mem)
      rw [List.flatMap_cons, List.append_assoc, List.length_cons, rep,
        bind_ok (h item List.mem_cons_self _), bind_ok hitems]
      rfl

end Parser

/-- `p` inverts the format `enc` on the values `wf`, consuming exactly the bytes
of the value it returns. -/
structure Decodes (p : Parser ε α) (wf : α → Prop) (enc : α → Bytes) : Prop where
  /-- The format of a well-formed value is read back, the suffix is untouched. -/
  complete : ∀ x r, wf x → p (enc x ++ r) = .ok (x, r)
  /-- Nothing else is accepted. -/
  sound : ∀ bs x r, p bs = .ok (x, r) → wf x ∧ bs = enc x ++ r

namespace Decodes

variable {p : Parser ε α} {wf : α → Prop} {enc : α → Bytes}

/-- Nothing is left to read: the condition holds of one value only. -/
theorem record {b : β} {wf : β → Prop} (hwf : ∀ b', wf b' ↔ b' = b) :
    Decodes (pure b : Parser ε β) wf (fun _ => []) where
  complete := by
    intro b' r h
    rw [(hwf b').mp h]
    rfl
  sound := by
    intro bs b' r h
    obtain ⟨rfl, rfl⟩ := Prod.mk.inj (Except.ok.inj h)
    exact ⟨(hwf b).mpr rfl, rfl⟩

/-- Read the field `f` first, then the records that have this `f`. -/
theorem field (f : β → α) {k : α → Parser ε β} {known : β → Prop} {enc' : β → Bytes}
    (hp : Decodes p wf enc) (hknown : ∀ b, known b → wf (f b))
    (hk : ∀ a, wf a → Decodes (k a) (fun b => known b ∧ f b = a) enc') :
    Decodes (p >>= k) known (fun b => enc (f b) ++ enc' b) where
  complete := by
    intro b r h
    have hwf := hknown b h
    rw [List.append_assoc, Parser.bind_ok (hp.complete (f b) (enc' b ++ r) hwf)]
    exact (hk (f b) hwf).complete b r ⟨h, rfl⟩
  sound := by
    intro bs b r h
    obtain ⟨a, bs', ha, hb⟩ := Parser.of_bind_ok h
    obtain ⟨hwf, hbs⟩ := hp.sound bs a bs' ha
    obtain ⟨⟨hb, hfa⟩, hbs'⟩ := (hk a hwf).sound bs' b r hb
    rw [hfa, hbs, hbs', List.append_assoc]
    exact ⟨hb, rfl⟩

/-- The same bytes written as another function. -/
theorem reformat {enc' : α → Bytes} (hp : Decodes p wf enc)
    (henc : ∀ x, enc' x = enc x) : Decodes p wf enc' := by
  have heq : enc' = enc := funext henc
  rw [heq]
  exact hp

/-- The same values described by another condition. -/
theorem restrict {wf' : α → Prop} (hp : Decodes p wf enc)
    (hwf : ∀ x, wf' x ↔ wf x) : Decodes p wf' enc := by
  have heq : wf' = wf := funext fun x => propext (hwf x)
  rw [heq]
  exact hp

/-- `n` values back to back. -/
theorem rep (hp : Decodes p wf enc) (n : Nat) :
    Decodes (p.rep n) (fun xs => (∀ x ∈ xs, wf x) ∧ xs.length = n)
      (fun xs => xs.flatMap enc) := by
  induction n with
  | zero =>
      constructor
      · rintro xs r ⟨_, hlen⟩
        rw [List.length_eq_zero_iff.mp hlen]
        rfl
      · intro bs xs r h
        obtain ⟨rfl, rfl⟩ := Prod.mk.inj (Except.ok.inj h)
        simp
  | succ n ih =>
      constructor
      · rintro xs r ⟨hall, hlen⟩
        cases xs with
        | nil => simp at hlen
        | cons x xs =>
            have hx := hp.complete x (xs.flatMap enc ++ r) (hall x List.mem_cons_self)
            have hxs := ih.complete xs r
              ⟨fun y hy => hall y (List.mem_cons_of_mem x hy), by simpa using hlen⟩
            rw [List.flatMap_cons, List.append_assoc, Parser.rep, Parser.bind_ok hx,
              Parser.bind_ok hxs]
            rfl
      · intro bs xs r h
        rw [Parser.rep] at h
        obtain ⟨y, bs', hy, h⟩ := Parser.of_bind_ok h
        obtain ⟨ys, bs'', hys, h⟩ := Parser.of_bind_ok h
        obtain ⟨rfl, rfl⟩ := Prod.mk.inj (Except.ok.inj h)
        obtain ⟨hwfy, hbs⟩ := hp.sound bs y bs' hy
        obtain ⟨⟨hall, hlen⟩, hbs'⟩ := ih.sound bs' ys bs'' hys
        refine ⟨⟨?_, by simp [hlen]⟩, ?_⟩
        · intro x hx
          rcases List.mem_cons.mp hx with rfl | hx
          · exact hwfy
          · exact hall x hx
        · rw [hbs, hbs', List.flatMap_cons, List.append_assoc]

/-- Post-process the value read: `back` undoes the partial conversion `conv`. -/
theorem convert {conv : α → Except ε β} {back : β → α} (hp : Decodes p wf enc)
    (hback : ∀ a b, conv a = .ok b ↔ a = back b) :
    Decodes (p >>= fun a => liftM (conv a)) (fun b => wf (back b))
      (fun b => enc (back b)) where
  complete := by
    intro b r h
    rw [Parser.bind_ok (hp.complete (back b) r h)]
    have hconv : conv (back b) = .ok b := (hback (back b) b).mpr rfl
    show (conv (back b) >>= fun y => pure (y, r)) = _
    rw [hconv]
    rfl
  sound := by
    intro bs b r h
    obtain ⟨a, bs', ha, hb⟩ := Parser.of_bind_ok h
    obtain ⟨hwf, hbs⟩ := hp.sound bs a bs' ha
    have hb' : (conv a >>= fun y => pure (y, bs')) = .ok (b, r) := hb
    cases hconv : conv a with
    | error e =>
        rw [hconv] at hb'
        cases hb'
    | ok y =>
        rw [hconv] at hb'
        obtain ⟨rfl, rfl⟩ := Prod.mk.inj (Except.ok.inj hb')
        have hay : a = back y := (hback a y).mp hconv
        rw [hay] at hwf hbs
        exact ⟨hwf, hbs⟩

end Decodes

end FarBus.Foundation
