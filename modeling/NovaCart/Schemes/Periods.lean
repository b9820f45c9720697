import Mathlib

/-! Half-open periods that may have no end.

    A period has a first instant and, when it ends, the first instant after it; it carries the proof that it is not
    empty. `overlaps` compares the bounds; `overlaps_iff` says that this is a common instant. -/

namespace Schemes

/-- The instants from `start` up to `stop`. -/
@[ext] structure Period (δ : Type) [LinearOrder δ] where
  start : δ
  stop : Option δ
  nonempty : ∀ t ∈ stop, start < t
  deriving DecidableEq

namespace Period

variable {δ : Type} [LinearOrder δ] {p q : Period δ} {d t : δ}

/-- From a date on, without an end. -/
def openFrom (start : δ) : Period δ := ⟨start, none, by simp⟩

/-- The period contains the instant. -/
def covers (p : Period δ) (d : δ) : Prop := p.start ≤ d ∧ ∀ t ∈ p.stop, d < t

instance (p : Period δ) (d : δ) : Decidable (p.covers d) := inferInstanceAs (Decidable (_ ∧ _))

/-- Neither period ends before the other starts. -/
def overlaps (p q : Period δ) : Prop := (∀ t ∈ p.stop, q.start < t) ∧ ∀ t ∈ q.stop, p.start < t

instance (p q : Period δ) : Decidable (p.overlaps q) := inferInstanceAs (Decidable (_ ∧ _))

theorem overlaps_symm (h : p.overlaps q) : q.overlaps p := ⟨h.2, h.1⟩

/-- Two periods overlap when an instant is in both. -/
theorem overlaps_of_covers (hp : p.covers d) (hq : q.covers d) : p.overlaps q :=
  ⟨fun t ht => hq.1.trans_lt (hp.2 t ht), fun t ht => hp.1.trans_lt (hq.2 t ht)⟩

/-- The later of the two starts is in both. -/
theorem overlaps_iff : p.overlaps q ↔ ∃ d, p.covers d ∧ q.covers d := by
  constructor
  · rintro ⟨h₁, h₂⟩
    refine ⟨max p.start q.start, ⟨le_max_left .., fun t ht => ?_⟩, le_max_right .., fun t ht => ?_⟩
    · exact max_lt (p.nonempty t ht) (h₁ t ht)
    · exact max_lt (h₂ t ht) (q.nonempty t ht)
  · rintro ⟨d, hp, hq⟩
    exact overlaps_of_covers hp hq

/-- The period with its end brought forward. -/
def endAt (p : Period δ) (t : δ) (h : p.start < t) : Period δ := ⟨p.start, some t, by rintro _ ⟨⟩; exact h⟩

/-- A period that is ended earlier covers no new instant. -/
theorem covers_of_endAt (h : p.start < t) (hle : ∀ old ∈ p.stop, t ≤ old) (hc : (p.endAt t h).covers d) : p.covers d :=
  ⟨hc.1, fun old hold => (hc.2 t rfl).trans_le (hle old hold)⟩

theorem overlaps_of_endAt (h : p.start < t) (hle : ∀ old ∈ p.stop, t ≤ old) (ho : (p.endAt t h).overlaps q) :
    p.overlaps q := by
  obtain ⟨d, hp, hq⟩ := overlaps_iff.mp ho
  exact overlaps_of_covers (covers_of_endAt h hle hp) hq

end Period

end Schemes
