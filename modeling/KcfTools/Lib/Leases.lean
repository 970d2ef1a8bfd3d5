import Mathlib

/-! Handles that a holder gets from a server and gives back to it, by requests that are answered later: when
does each live handle have an owner? Handles are positive numbers, 0 stands for none. -/

namespace KcfTools.Leases

open Relation

inductive Request
  | acquire
  | giveBack (handle : ℕ)
  | other
deriving DecidableEq

structure Answer where
  handle : ℕ
  ok : Bool

/-- Requests are known by tickets: `acquiring` and `returning` are those whose answers the holder has not
read, `flying` those that have no answer. The server knows the `live` handles, `issued` is the last one. -/
structure Ledger where
  held : ℕ
  acquiring : ℕ → Prop
  returning : ℕ → ℕ → Prop
  flying : ℕ → Request → Prop
  answer : ℕ → Option Answer
  live : ℕ → Prop
  issued : ℕ

structure Ledger.Fresh (l : Ledger) (t : ℕ) : Prop where
  flying : ∀ q, ¬ l.flying t q
  answer : l.answer t = none
  acquiring : ¬ l.acquiring t
  returning : ∀ h, ¬ l.returning t h

def Ledger.fly (l : Ledger) (t : ℕ) (q : Request) : Ledger :=
  { l with flying := fun t' q' => l.flying t' q' ∨ t' = t ∧ q' = q }

open Classical in
/-- All these requests have the same answer. -/
noncomputable def Ledger.land (l : Ledger) (s : Set ℕ) (a : Answer) : Ledger :=
  { l with
    flying := fun t q => l.flying t q ∧ t ∉ s
    answer := fun t => if t ∈ s then some a else l.answer t }

def Ledger.forget (l : Ledger) (t : ℕ) : Ledger :=
  { l with
    acquiring := fun t' => l.acquiring t' ∧ t' ≠ t
    returning := fun t' h => l.returning t' h ∧ t' ≠ t }

/-- The holder has the handle, or it is on its way back by another request. -/
def Ledger.Owned (l : Ledger) (s : Set ℕ) (h : ℕ) : Prop := l.held = h ∨ ∃ t ∉ s, l.flying t (.giveBack h)

/-- What the holder and the server do, and another server, which answers only while this one has no live
handle. Requests are refused only while their handles have another owner; a live handle is adopted or given up,
and no dead one is adopted; an answered return leaves no dead handle behind; the server closes only where the
holder waits for the answer to such a return. -/
inductive Step : Ledger → Ledger → Prop
  | acquire {l t} (hf : l.Fresh t) (hh : l.held = 0) (ha : ∀ t, ¬ l.acquiring t)
      (hr : ∀ t h, ¬ l.returning t h) :
      Step l { l.fly t .acquire with acquiring := fun t' => l.acquiring t' ∨ t' = t }
  | giveBack {l t} (hf : l.Fresh t) (ha : ∀ t, ¬ l.acquiring t) :
      Step l { l.fly t (.giveBack l.held) with
        returning := fun t' h => l.returning t' h ∨ t' = t ∧ h = l.held }
  | other {l t} (hf : l.Fresh t) : Step l (l.fly t .other)
  | drop {l t} (hf : l.Fresh t) (hh : l.held ≠ 0) : Step l { l.fly t (.giveBack l.held) with held := 0 }
  | refused {l s} (hs : ∀ t ∈ s, l.answer t = none)
      (ho : ∀ t ∈ s, ∀ h, l.flying t (.giveBack h) → l.live h → l.Owned s h) : Step l (l.land s ⟨0, false⟩)
  | performed {l t a issued} (hq : l.flying t .other) (hi : l.issued ≤ issued) :
      Step l { l.land {t} a with issued := issued }
  | granted {l t} (hq : l.flying t .acquire) :
      Step l { l.land {t} ⟨l.issued + 1, true⟩ with
        live := fun h => l.live h ∨ h = l.issued + 1
        issued := l.issued + 1 }
  | ended {l t h ok} (hq : l.flying t (.giveBack h)) :
      Step l { l.land {t} ⟨0, ok⟩ with live := fun h' => l.live h' ∧ h' ≠ h }
  | elsewhere {l t q a issued} (hq : l.flying t q) (hl : ∀ h, ¬ l.live h) (hi : l.issued ≤ issued)
      (ha : q = .acquire → a.handle ≠ 0 → a.ok = true ∧ a.handle ≤ issued ∧ l.issued < a.handle) :
      Step l { l.land {t} a with issued := issued }
  | raised {l issued} (hi : l.issued ≤ issued) : Step l { l with issued := issued }
  | closed {l} (hh : l.live l.held → ∃ t, l.returning t l.held) : Step l { l with live := fun _ => False }
  | missed {l t a} (hp : l.acquiring t) (ha : l.answer t = some a) (hh : ¬ l.live a.handle) :
    Step l (l.forget t)
  | adopted {l t a} (hp : l.acquiring t) (ha : l.answer t = some a) (hh : l.live a.handle) :
      Step l { l.forget t with held := a.handle }
  | givenUp {l t t₀ a} (hp : l.acquiring t) (ha : l.answer t = some a) (hh : a.handle ≠ 0) (hf : l.Fresh t₀) :
      Step l ((l.forget t).fly t₀ (.giveBack a.handle))
  | kept {l t h a} (hp : l.returning t h) (ha : l.answer t = some a)
      (hl : l.held = h → h ≠ 0 → l.live h) : Step l (l.forget t)
  | gone {l t h a} (hp : l.returning t h) (ha : l.answer t = some a) (hok : a.ok = true) :
      Step l { l.forget t with held := 0 }

/-- How the requests stand to their answers: the holder asks for one handle at a time, and not while it
returns one. -/
structure Tickets (acquiring : ℕ → Prop) (returning : ℕ → ℕ → Prop) (flying : ℕ → Request → Prop)
    (answer : ℕ → Option Answer) : Prop where
  acquires : ∀ t, flying t .acquire → acquiring t
  unanswered : ∀ t q, flying t q → answer t = none
  unique : ∀ t q q', flying t q → flying t q' → q = q'
  acquired : ∀ t q, acquiring t → flying t q → q = .acquire
  given : ∀ t h q, returning t h → flying t q → q = .giveBack h
  alone : ∀ t t', acquiring t → acquiring t' → t' = t
  apart : ∀ t t' h, acquiring t → ¬ returning t' h

abbrev Ledger.tickets (l : Ledger) : Prop := Tickets l.acquiring l.returning l.flying l.answer

/-- The handles' owners, and what makes them last: `owner` and `holds` are the results. -/
structure Sound (l : Ledger) : Prop where
  tickets : l.tickets
  owner : ∀ h, l.live h → l.held = h ∨ (∃ t a, l.acquiring t ∧ l.answer t = some a ∧ a.handle = h) ∨
    ∃ t, l.flying t (.giveBack h)
  holds : l.held ≠ 0 → l.live l.held ∨ ∃ t, l.returning t l.held
  positive : ∀ h, l.live h → h ≠ 0
  bounded : l.held ≤ l.issued
  returns : ∀ t, l.held ≠ 0 → l.flying t (.giveBack l.held) → l.returning t l.held
  issued : ∀ t h, l.flying t (.giveBack h) → h ≤ l.issued
  empty : ∀ t, l.acquiring t → l.held = 0
  granted : ∀ t a, l.acquiring t → l.answer t = some a → a.handle ≠ 0 →
    a.ok = true ∧ a.handle ≤ l.issued ∧ ∀ t', ¬ l.flying t' (.giveBack a.handle)
  returned : ∀ t h, l.returning t h → l.held = h ∨ l.held = 0
  known : ∀ t h, l.returning t h → h ≤ l.issued
  ended : ∀ t h a, l.returning t h → l.answer t = some a → a.ok = true → ¬ l.live h

variable {l l' : Ledger} {t t₀ h issued : ℕ} {s : Set ℕ} {q : Request} {a : Answer} {ok : Bool}

section Tickets

lemma Tickets.fly_unanswered (hs : l.tickets) (hf : l.Fresh t) :
    ∀ t' q', (l.fly t q).flying t' q' → l.answer t' = none := by
  rintro t' q' (hfl | ⟨rfl, -⟩)
  · exact hs.unanswered t' q' hfl
  · exact hf.answer

lemma Tickets.fly_unique (hs : l.tickets) (hf : l.Fresh t) :
    ∀ t' q₁ q₂, (l.fly t q).flying t' q₁ → (l.fly t q).flying t' q₂ → q₁ = q₂ := by
  rintro t' q₁ q₂ (h₁ | ⟨rfl, rfl⟩) (h₂ | ⟨he, rfl⟩)
  · exact hs.unique t' q₁ q₂ h₁ h₂
  · exact absurd (he ▸ h₁) (hf.flying q₁)
  · exact absurd h₂ (hf.flying q₂)
  · rfl

lemma Tickets.fly (hs : l.tickets) (hf : l.Fresh t) (hq : q ≠ .acquire) : (l.fly t q).tickets where
  acquires t' := by
    rintro (hfl | ⟨-, he⟩)
    · exact hs.acquires t' hfl
    · exact absurd he.symm hq
  unanswered := hs.fly_unanswered hf
  unique := hs.fly_unique hf
  acquired t' q' hp := by
    rintro (hfl | ⟨rfl, -⟩)
    · exact hs.acquired t' q' hp hfl
    · exact absurd hp hf.acquiring
  given t' h q' hr := by
    rintro (hfl | ⟨rfl, -⟩)
    · exact hs.given t' h q' hr hfl
    · exact absurd hr (hf.returning h)
  alone := hs.alone
  apart := hs.apart

lemma Tickets.acquire (hs : l.tickets) (hf : l.Fresh t) (ha : ∀ t, ¬ l.acquiring t)
    (hr : ∀ t h, ¬ l.returning t h) :
    Tickets (fun t' => l.acquiring t' ∨ t' = t) l.returning (l.fly t .acquire).flying l.answer where
  acquires t' := by
    rintro (hfl | ⟨rfl, -⟩)
    · exact .inl (hs.acquires t' hfl)
    · exact .inr rfl
  unanswered := hs.fly_unanswered hf
  unique := hs.fly_unique hf
  acquired t' q' := by
    rintro (hp | rfl) (hfl | ⟨-, rfl⟩)
    · exact absurd hp (ha t')
    · rfl
    · exact absurd hfl (hf.flying q')
    · rfl
  given t' h _ hp := absurd hp (hr t' h)
  alone t₁ t₂ := by
    rintro (h₁ | rfl) (h₂ | rfl)
    · exact absurd h₁ (ha t₁)
    · exact absurd h₁ (ha t₁)
    · exact absurd h₂ (ha t₂)
    · rfl
  apart _ t' h _ := hr t' h

lemma Tickets.giveBack (hs : l.tickets) (hf : l.Fresh t) (ha : ∀ t, ¬ l.acquiring t) :
    Tickets l.acquiring (fun t' h' => l.returning t' h' ∨ t' = t ∧ h' = h) (l.fly t (.giveBack h)).flying
      l.answer := by
  have hfly := hs.fly hf (q := .giveBack h) (fun he => nomatch he)
  refine ⟨hfly.acquires, hfly.unanswered, hfly.unique, hfly.acquired, ?_, hs.alone,
    fun t' _ _ hp => absurd hp (ha t')⟩
  rintro t' h' q' (hr | ⟨rfl, rfl⟩) hfl
  · exact hfly.given t' h' q' hr hfl
  · rcases hfl with hfl | ⟨-, rfl⟩
    · exact absurd hfl (hf.flying q')
    · rfl

lemma Ledger.land_of_mem (ht : t ∈ s) : (l.land s a).answer t = some a := if_pos ht

lemma Ledger.land_of_notMem (ht : t ∉ s) : (l.land s a).answer t = l.answer t := if_neg ht

lemma Tickets.land (hs : l.tickets) : (l.land s a).tickets where
  acquires t' hfl := hs.acquires t' hfl.1
  unanswered t' q' hfl := (Ledger.land_of_notMem hfl.2).trans (hs.unanswered t' q' hfl.1)
  unique t' q₁ q₂ h₁ h₂ := hs.unique t' q₁ q₂ h₁.1 h₂.1
  acquired t' q' hp hfl := hs.acquired t' q' hp hfl.1
  given t' h q' hr hfl := hs.given t' h q' hr hfl.1
  alone := hs.alone
  apart := hs.apart

lemma Tickets.forget (hs : l.tickets) (ha : l.answer t = some a) : (l.forget t).tickets where
  acquires t' hfl := by
    refine ⟨hs.acquires t' hfl, ?_⟩
    rintro rfl
    have hnone := hs.unanswered t' _ hfl
    rw [ha] at hnone
    cases hnone
  unanswered := hs.unanswered
  unique := hs.unique
  acquired t' q' hp := hs.acquired t' q' hp.1
  given t' h q' hr := hs.given t' h q' hr.1
  alone t₁ t₂ h₁ h₂ := hs.alone t₁ t₂ h₁.1 h₂.1
  apart t₁ t₂ h h₁ h₂ := hs.apart t₁ t₂ h h₁.1 h₂.1

end Tickets

section Asks

lemma Sound.acquire (hs : Sound l) (hf : l.Fresh t) (hh : l.held = 0) (ha : ∀ t, ¬ l.acquiring t)
    (hr : ∀ t h, ¬ l.returning t h) :
    Sound { l.fly t .acquire with acquiring := fun t' => l.acquiring t' ∨ t' = t } where
  tickets := hs.tickets.acquire hf ha hr
  owner h hl := by
    rcases hs.owner h hl with ho | ⟨t', _, hp, -⟩ | ⟨t', hfl⟩
    · exact .inl ho
    · exact absurd hp (ha t')
    · exact .inr (.inr ⟨t', .inl hfl⟩)
  holds hne := absurd hh hne
  positive := hs.positive
  bounded := hs.bounded
  returns _ hne := absurd hh hne
  issued t' h := by
    rintro (hfl | ⟨-, he⟩)
    · exact hs.issued t' h hfl
    · cases he
  empty _ _ := hh
  granted t' a' := by
    rintro (hp | rfl) hanswer _
    · exact absurd hp (ha t')
    · cases hf.answer.symm.trans hanswer
  returned := hs.returned
  known := hs.known
  ended := hs.ended

lemma Sound.giveBack (hs : Sound l) (hf : l.Fresh t) (ha : ∀ t, ¬ l.acquiring t) :
    Sound { l.fly t (.giveBack l.held) with
      returning := fun t' h => l.returning t' h ∨ t' = t ∧ h = l.held } where
  tickets := hs.tickets.giveBack hf ha
  owner h hl := by
    rcases hs.owner h hl with ho | ⟨t', _, hp, -⟩ | ⟨t', hfl⟩
    · exact .inl ho
    · exact absurd hp (ha t')
    · exact .inr (.inr ⟨t', .inl hfl⟩)
  holds hne := (hs.holds hne).imp_right fun ⟨t', hr⟩ => ⟨t', .inl hr⟩
  positive := hs.positive
  bounded := hs.bounded
  returns t' hne := by
    rintro (hfl | ⟨rfl, -⟩)
    · exact .inl (hs.returns t' hne hfl)
    · exact .inr ⟨rfl, rfl⟩
  issued t' h := by
    rintro (hfl | ⟨-, he⟩)
    · exact hs.issued t' h hfl
    · cases he
      exact hs.bounded
  empty := hs.empty
  granted t' _ hp := absurd hp (ha t')
  returned t' h := by
    rintro (hr | ⟨-, rfl⟩)
    · exact hs.returned t' h hr
    · exact .inl rfl
  known t' h := by
    rintro (hr | ⟨-, rfl⟩)
    · exact hs.known t' h hr
    · exact hs.bounded
  ended t' h a' := by
    rintro (hr | ⟨rfl, -⟩) hanswer hok
    · exact hs.ended t' h a' hr hanswer hok
    · cases hf.answer.symm.trans hanswer

lemma Sound.other (hs : Sound l) (hf : l.Fresh t) : Sound (l.fly t .other) where
  tickets := hs.tickets.fly hf (fun he => nomatch he)
  owner h hl := (hs.owner h hl).imp_right (Or.imp_right fun ⟨t', hfl⟩ => ⟨t', .inl hfl⟩)
  holds := hs.holds
  positive := hs.positive
  bounded := hs.bounded
  returns t' hne := by
    rintro (hfl | ⟨-, he⟩)
    · exact hs.returns t' hne hfl
    · cases he
  issued t' h := by
    rintro (hfl | ⟨-, he⟩)
    · exact hs.issued t' h hfl
    · cases he
  empty := hs.empty
  granted t' a' hp hanswer hne := by
    obtain ⟨hok, hle, hno⟩ := hs.granted t' a' hp hanswer hne
    refine ⟨hok, hle, fun t'' => ?_⟩
    rintro (hfl | ⟨-, he⟩)
    · exact hno t'' hfl
    · cases he
  returned := hs.returned
  known := hs.known
  ended := hs.ended

lemma Sound.drop (hs : Sound l) (hf : l.Fresh t) (hh : l.held ≠ 0) :
    Sound { l.fly t (.giveBack l.held) with held := 0 } where
  tickets := hs.tickets.fly hf (fun he => nomatch he)
  owner h hl := by
    rcases hs.owner h hl with rfl | ⟨t', _, hp, -⟩ | ⟨t', hfl⟩
    · exact .inr (.inr ⟨t, .inr ⟨rfl, rfl⟩⟩)
    · exact absurd (hs.empty t' hp) hh
    · exact .inr (.inr ⟨t', .inl hfl⟩)
  holds hne := absurd rfl hne
  positive := hs.positive
  bounded := Nat.zero_le _
  returns _ hne := absurd rfl hne
  issued t' h := by
    rintro (hfl | ⟨-, he⟩)
    · exact hs.issued t' h hfl
    · cases he
      exact hs.bounded
  empty _ _ := rfl
  granted t' _ hp := absurd (hs.empty t' hp) hh
  returned _ _ _ := .inr rfl
  known := hs.known
  ended := hs.ended

end Asks

section Lands

/-- A request lands with `a`. A returned handle stays live only while something else owns it, and a granted
one is new. -/
lemma Sound.land {live : ℕ → Prop} (hs : Sound l) (hq : l.flying t q) (hi : l.issued ≤ issued)
    (hpositive : ∀ h, live h → h ≠ 0)
    (howner : ∀ h, live h → (l.live h ∧ q ≠ .giveBack h) ∨ q = .acquire ∧ a.handle = h)
    (hkept : ∀ h, l.live h → live h ∨ q = .giveBack h) (hold : ∀ h ≤ l.issued, live h → l.live h)
    (hgranted : q = .acquire → a.handle ≠ 0 → a.ok = true ∧ a.handle ≤ issued ∧ l.issued < a.handle)
    (hended : ∀ h, q = .giveBack h → a.ok = true → ¬ live h) :
    Sound { l.land {t} a with live := live, issued := issued } where
  tickets := hs.tickets.land
  owner h hl := by
    rcases howner h hl with ⟨hl, hreturned⟩ | ⟨rfl, hh⟩
    · rcases hs.owner h hl with hheld | ⟨t', a', hp, hanswer, hh⟩ | ⟨t', hfl⟩
      · exact .inl hheld
      · have hne : t' ∉ ({t} : Set ℕ) := by
          rintro rfl
          cases (hs.tickets.unanswered t' q hq).symm.trans hanswer
        exact .inr (.inl ⟨t', a', hp, (Ledger.land_of_notMem hne).trans hanswer, hh⟩)
      · have hne : t' ∉ ({t} : Set ℕ) := by
          rintro rfl
          exact hreturned (hs.tickets.unique t' _ _ hq hfl)
        exact .inr (.inr ⟨t', hfl, hne⟩)
    · exact .inr (.inl ⟨t, a, hs.tickets.acquires t hq, Ledger.land_of_mem rfl, hh⟩)
  holds hne := by
    rcases hs.holds hne with hl | hr
    · rcases hkept l.held hl with hl | rfl
      · exact .inl hl
      · exact .inr ⟨t, hs.returns t hne hq⟩
    · exact .inr hr
  positive := hpositive
  bounded := hs.bounded.trans hi
  returns t' hne hfl := hs.returns t' hne hfl.1
  issued t' h hfl := (hs.issued t' h hfl.1).trans hi
  empty := hs.empty
  granted t' a' hp hanswer hne := by
    by_cases ht : t' ∈ ({t} : Set ℕ)
    · obtain rfl := Option.some.inj ((Ledger.land_of_mem ht).symm.trans hanswer)
      obtain rfl : t' = t := ht
      obtain ⟨hok, hle, hnew⟩ := hgranted (hs.tickets.acquired t' q hp hq) hne
      exact ⟨hok, hle, fun t'' hfl => absurd (hs.issued t'' _ hfl.1) (not_le.mpr hnew)⟩
    · obtain ⟨hok, hle, hno⟩ := hs.granted t' a' hp ((Ledger.land_of_notMem ht).symm.trans hanswer) hne
      exact ⟨hok, hle.trans hi, fun t'' hfl => hno t'' hfl.1⟩
  returned := hs.returned
  known t' h hr := (hs.known t' h hr).trans hi
  ended t' h a' hr hanswer hok := by
    by_cases ht : t' ∈ ({t} : Set ℕ)
    · obtain rfl := Option.some.inj ((Ledger.land_of_mem ht).symm.trans hanswer)
      obtain rfl : t' = t := ht
      exact hended h (hs.tickets.given t' h q hr hq) hok
    · have hanswer := (Ledger.land_of_notMem ht).symm.trans hanswer
      exact fun hl => hs.ended t' h a' hr hanswer hok (hold h (hs.known t' h hr) hl)

lemma Sound.refused (hs : Sound l) (hn : ∀ t ∈ s, l.answer t = none)
    (ho : ∀ t ∈ s, ∀ h, l.flying t (.giveBack h) → l.live h → l.Owned s h) : Sound (l.land s ⟨0, false⟩) where
  tickets := hs.tickets.land
  owner h hl := by
    rcases hs.owner h hl with hheld | ⟨t, a, hp, hanswer, hh⟩ | ⟨t, hfl⟩
    · exact .inl hheld
    · have ht : t ∉ s := fun ht => by
        cases (hn t ht).symm.trans hanswer
      exact .inr (.inl ⟨t, a, hp, (Ledger.land_of_notMem ht).trans hanswer, hh⟩)
    · by_cases ht : t ∈ s
      · rcases ho t ht h hfl hl with hheld | ⟨t', ht', hfl'⟩
        · exact .inl hheld
        · exact .inr (.inr ⟨t', hfl', ht'⟩)
      · exact .inr (.inr ⟨t, hfl, ht⟩)
  holds := hs.holds
  positive := hs.positive
  bounded := hs.bounded
  returns t hne hfl := hs.returns t hne hfl.1
  issued t h hfl := hs.issued t h hfl.1
  empty := hs.empty
  granted t a hp hanswer hne := by
    by_cases ht : t ∈ s
    · obtain rfl := Option.some.inj ((Ledger.land_of_mem ht).symm.trans hanswer)
      exact absurd rfl hne
    · obtain ⟨hok, hle, hno⟩ := hs.granted t a hp ((Ledger.land_of_notMem ht).symm.trans hanswer) hne
      exact ⟨hok, hle, fun t' hfl => hno t' hfl.1⟩
  returned := hs.returned
  known := hs.known
  ended t h a hr hanswer hok := by
    by_cases ht : t ∈ s
    · obtain rfl := Option.some.inj ((Ledger.land_of_mem ht).symm.trans hanswer)
      cases hok
    · exact hs.ended t h a hr ((Ledger.land_of_notMem ht).symm.trans hanswer) hok

lemma Sound.performed (hs : Sound l) (hq : l.flying t .other) (hi : l.issued ≤ issued) :
    Sound { l.land {t} a with issued := issued } :=
  hs.land hq hi hs.positive (fun _ hl => .inl ⟨hl, fun he => nomatch he⟩) (fun _ hl => .inl hl)
    (fun _ _ hl => hl) (fun he => nomatch he) (fun _ he => nomatch he)

lemma Sound.elsewhere (hs : Sound l) (hq : l.flying t q) (hl : ∀ h, ¬ l.live h) (hi : l.issued ≤ issued)
    (ha : q = .acquire → a.handle ≠ 0 → a.ok = true ∧ a.handle ≤ issued ∧ l.issued < a.handle) :
    Sound { l.land {t} a with issued := issued } :=
  hs.land hq hi hs.positive (fun h hlive => absurd hlive (hl h)) (fun _ hlive => .inl hlive)
    (fun _ _ hlive => hlive) ha (fun h _ _ => hl h)

lemma Sound.grant (hs : Sound l) (hq : l.flying t .acquire) :
    Sound { l.land {t} ⟨l.issued + 1, true⟩ with
      live := fun h => l.live h ∨ h = l.issued + 1
      issued := l.issued + 1 } := by
  refine hs.land hq (Nat.le_succ _) ?_ ?_ (fun _ hl => .inl (.inl hl)) ?_ ?_ (fun _ he => nomatch he)
  · rintro h (hl | rfl)
    · exact hs.positive h hl
    · exact Nat.succ_ne_zero _
  · rintro h (hl | rfl)
    · exact .inl ⟨hl, fun he => nomatch he⟩
    · exact .inr ⟨rfl, rfl⟩
  · rintro h hle (hl | rfl)
    · exact hl
    · exact absurd hle (Nat.not_succ_le_self _)
  · exact fun _ _ => ⟨rfl, le_rfl, Nat.lt_succ_self _⟩

lemma Sound.finish (hs : Sound l) (hq : l.flying t (.giveBack h)) :
    Sound { l.land {t} ⟨0, ok⟩ with live := fun h' => l.live h' ∧ h' ≠ h } := by
  refine hs.land hq le_rfl (fun h' hl => hs.positive h' hl.1) ?_ ?_ (fun _ _ hl => hl.1)
    (fun he => nomatch he) ?_
  · rintro h' ⟨hl, hne⟩
    exact .inl ⟨hl, fun he => hne (Request.giveBack.inj he).symm⟩
  · intro h' hl
    by_cases he : h' = h
    · exact .inr (by rw [he])
    · exact .inl ⟨hl, he⟩
  · rintro h' he - ⟨-, hne⟩
    cases he
    exact hne rfl

lemma Sound.raise (hs : Sound l) (hi : l.issued ≤ issued) : Sound { l with issued := issued } where
  tickets := hs.tickets
  owner := hs.owner
  holds := hs.holds
  positive := hs.positive
  bounded := hs.bounded.trans hi
  returns := hs.returns
  issued t h hfl := (hs.issued t h hfl).trans hi
  empty := hs.empty
  granted t a hp hanswer hne := by
    obtain ⟨hok, hle, hno⟩ := hs.granted t a hp hanswer hne
    exact ⟨hok, hle.trans hi, hno⟩
  returned := hs.returned
  known t h hr := (hs.known t h hr).trans hi
  ended := hs.ended

lemma Sound.close (hs : Sound l) (hh : l.live l.held → ∃ t, l.returning t l.held) :
    Sound { l with live := fun _ => False } where
  tickets := hs.tickets
  owner _ hl := hl.elim
  holds hne := .inr ((hs.holds hne).elim hh id)
  positive _ hl := hl.elim
  bounded := hs.bounded
  returns := hs.returns
  issued := hs.issued
  empty := hs.empty
  granted := hs.granted
  returned := hs.returned
  known := hs.known
  ended _ _ _ _ _ _ hl := hl

end Lands

section Reads

lemma Sound.forgotten (hs : Sound l) (hp : l.acquiring t) (t' : ℕ) : ¬ (l.forget t).acquiring t' :=
  fun ⟨hp', hne⟩ => hne (hs.tickets.alone t t' hp hp')

lemma Sound.missed (hs : Sound l) (hp : l.acquiring t) (ha : l.answer t = some a) (hh : ¬ l.live a.handle) :
    Sound (l.forget t) where
  tickets := hs.tickets.forget ha
  owner h hl := by
    rcases hs.owner h hl with ho | ⟨t', a', hp', hanswer, rfl⟩ | hfl
    · exact .inl ho
    · obtain rfl := hs.tickets.alone t t' hp hp'
      obtain rfl := Option.some.inj (ha.symm.trans hanswer)
      exact absurd hl hh
    · exact .inr (.inr hfl)
  holds hne := absurd (hs.empty t hp) hne
  positive := hs.positive
  bounded := hs.bounded
  returns _ hne := absurd (hs.empty t hp) hne
  issued := hs.issued
  empty _ _ := hs.empty t hp
  granted t' _ hp' := absurd hp' (hs.forgotten hp t')
  returned t' h hr := hs.returned t' h hr.1
  known t' h hr := hs.known t' h hr.1
  ended t' h a' hr := hs.ended t' h a' hr.1

lemma Sound.adopted (hs : Sound l) (hp : l.acquiring t) (ha : l.answer t = some a) (hh : l.live a.handle) :
    Sound { l.forget t with held := a.handle } := by
  obtain ⟨-, hle, hno⟩ := hs.granted t a hp ha (hs.positive _ hh)
  refine ⟨hs.tickets.forget ha, fun h hl => ?_, fun _ => .inl hh, hs.positive, hle,
    fun t' _ hfl => absurd hfl (hno t'), hs.issued, fun t' hp' => absurd hp' (hs.forgotten hp t'),
    fun t' _ hp' => absurd hp' (hs.forgotten hp t'), fun t' h hr => absurd hr.1 (hs.tickets.apart t t' h hp),
    fun t' h hr => hs.known t' h hr.1, fun t' h a' hr => hs.ended t' h a' hr.1⟩
  rcases hs.owner h hl with ho | ⟨t', a', hp', hanswer, rfl⟩ | hfl
  · exact absurd (ho.symm.trans (hs.empty t hp)) (hs.positive h hl)
  · obtain rfl := hs.tickets.alone t t' hp hp'
    obtain rfl := Option.some.inj (ha.symm.trans hanswer)
    exact .inl rfl
  · exact .inr (.inr hfl)

lemma Sound.givenUp (hs : Sound l) (hp : l.acquiring t) (ha : l.answer t = some a) (hh : a.handle ≠ 0)
    (hf : l.Fresh t₀) : Sound ((l.forget t).fly t₀ (.giveBack a.handle)) where
  tickets := by
    have hfresh : (l.forget t).Fresh t₀ :=
      ⟨hf.flying, hf.answer, fun hp' => hf.acquiring hp'.1, fun h hr => hf.returning h hr.1⟩
    exact (hs.tickets.forget ha).fly hfresh (fun he => nomatch he)
  owner h hl := by
    rcases hs.owner h hl with ho | ⟨t', a', hp', hanswer, rfl⟩ | ⟨t', hfl⟩
    · exact .inl ho
    · obtain rfl := hs.tickets.alone t t' hp hp'
      obtain rfl := Option.some.inj (ha.symm.trans hanswer)
      exact .inr (.inr ⟨t₀, .inr ⟨rfl, rfl⟩⟩)
    · exact .inr (.inr ⟨t', .inl hfl⟩)
  holds hne := absurd (hs.empty t hp) hne
  positive := hs.positive
  bounded := hs.bounded
  returns _ hne := absurd (hs.empty t hp) hne
  issued t' h := by
    rintro (hfl | ⟨-, he⟩)
    · exact hs.issued t' h hfl
    · cases he
      exact (hs.granted t a hp ha hh).2.1
  empty _ _ := hs.empty t hp
  granted t' _ hp' := absurd hp' (hs.forgotten hp t')
  returned t' h hr := hs.returned t' h hr.1
  known t' h hr := hs.known t' h hr.1
  ended t' h a' hr := hs.ended t' h a' hr.1

lemma Sound.kept (hs : Sound l) (hp : l.returning t h) (ha : l.answer t = some a)
    (hl : l.held = h → h ≠ 0 → l.live h) : Sound (l.forget t) where
  tickets := hs.tickets.forget ha
  owner h' hl' := by
    refine (hs.owner h' hl').imp_right (Or.imp_left ?_)
    rintro ⟨t', a', hp', -⟩
    exact absurd hp (hs.tickets.apart t' t h hp')
  holds hne := by
    have hheld : l.held = h := (hs.returned t h hp).resolve_right hne
    exact .inl (hheld ▸ hl hheld (hheld ▸ hne))
  positive := hs.positive
  bounded := hs.bounded
  returns t' hne hfl := by
    refine ⟨hs.returns t' hne hfl, ?_⟩
    rintro rfl
    cases (hs.tickets.unanswered t' _ hfl).symm.trans ha
  issued := hs.issued
  empty t' hp' := hs.empty t' hp'.1
  granted t' a' hp' := hs.granted t' a' hp'.1
  returned t' h' hr := hs.returned t' h' hr.1
  known t' h' hr := hs.known t' h' hr.1
  ended t' h' a' hr := hs.ended t' h' a' hr.1

lemma Sound.gone (hs : Sound l) (hp : l.returning t h) (ha : l.answer t = some a) (hok : a.ok = true) :
    Sound { l.forget t with held := 0 } where
  tickets := hs.tickets.forget ha
  owner h' hl := by
    rcases hs.owner h' hl with rfl | ⟨t', _, hp', -⟩ | hfl
    · have hheld : l.held = h := (hs.returned t h hp).resolve_right (hs.positive _ hl)
      exact absurd (hheld ▸ hl) (hs.ended t h a hp ha hok)
    · exact absurd hp (hs.tickets.apart t' t h hp')
    · exact .inr (.inr hfl)
  holds hne := absurd rfl hne
  positive := hs.positive
  bounded := Nat.zero_le _
  returns _ hne := absurd rfl hne
  issued := hs.issued
  empty _ _ := rfl
  granted t' a' hp' := hs.granted t' a' hp'.1
  returned _ _ _ := .inr rfl
  known t' h' hr := hs.known t' h' hr.1
  ended t' h' a' hr := hs.ended t' h' a' hr.1

end Reads

lemma Sound.step (hs : Sound l) (h : Step l l') : Sound l' := by
  cases h with
  | acquire hf hh ha hr => exact hs.acquire hf hh ha hr
  | giveBack hf ha => exact hs.giveBack hf ha
  | other hf => exact hs.other hf
  | drop hf hh => exact hs.drop hf hh
  | refused hn ho => exact hs.refused hn ho
  | performed hq hi => exact hs.performed hq hi
  | granted hq => exact hs.grant hq
  | ended hq => exact hs.finish hq
  | elsewhere hq hl hi ha => exact hs.elsewhere hq hl hi ha
  | raised hi => exact hs.raise hi
  | closed hh => exact hs.close hh
  | missed hp ha hh => exact hs.missed hp ha hh
  | adopted hp ha hh => exact hs.adopted hp ha hh
  | givenUp hp ha hh hf => exact hs.givenUp hp ha hh hf
  | kept hp ha hl => exact hs.kept hp ha hl
  | gone hp ha hok => exact hs.gone hp ha hok

lemma Sound.start (hh : l.held = 0) (hl : ∀ h, ¬ l.live h) (hf : ∀ t q, ¬ l.flying t q)
    (ha : ∀ t, ¬ l.acquiring t) (hr : ∀ t h, ¬ l.returning t h) : Sound l where
  tickets := by
    refine ⟨?_, ?_, ?_, ?_, ?_, ?_, ?_⟩
    · exact fun t hq => absurd hq (hf t _)
    · exact fun t q hq => absurd hq (hf t q)
    · exact fun t q _ hq => absurd hq (hf t q)
    · exact fun t _ hp => absurd hp (ha t)
    · exact fun t h _ hp => absurd hp (hr t h)
    · exact fun t _ hp => absurd hp (ha t)
    · exact fun t _ _ hp => absurd hp (ha t)
  owner h hlive := absurd hlive (hl h)
  holds hne := absurd hh hne
  positive h hlive := absurd hlive (hl h)
  bounded := hh ▸ Nat.zero_le _
  returns t _ hq := absurd hq (hf t _)
  issued t _ hq := absurd hq (hf t _)
  empty t hp := absurd hp (ha t)
  granted t _ hp := absurd hp (ha t)
  returned t h hp := absurd hp (hr t h)
  known t h hp := absurd hp (hr t h)
  ended t h _ hp := absurd hp (hr t h)

/-- With no live handle on its way back and no answer unread, the live handles are the one that is held. -/
theorem Sound.exact (hs : Sound l) (hf : ∀ t h, l.live h → ¬ l.flying t (.giveBack h))
    (ha : ∀ t, ¬ l.acquiring t)
    (hr : ∀ t h, ¬ l.returning t h) (h : ℕ) : l.live h ↔ h ≠ 0 ∧ l.held = h := by
  constructor
  · intro hl
    refine ⟨hs.positive h hl, ?_⟩
    rcases hs.owner h hl with ho | ⟨t, _, ht, -⟩ | ⟨t, ht⟩
    · exact ho
    · exact absurd ht (ha t)
    · exact absurd ht (hf t h hl)
  · rintro ⟨hne, rfl⟩
    exact (hs.holds hne).resolve_right fun ⟨t, ht⟩ => hr t _ ht

lemma Ledger.ext_of_iff (held : l'.held = l.held)
    (acquiring : ∀ t, l'.acquiring t ↔ l.acquiring t) (returning : ∀ t h, l'.returning t h ↔ l.returning t h)
    (flying : ∀ t q, l'.flying t q ↔ l.flying t q) (answer : ∀ t, l'.answer t = l.answer t)
    (live : ∀ h, l'.live h ↔ l.live h) (issued : l'.issued = l.issued) : l' = l := by
  cases l
  cases l'
  simp only [Ledger.mk.injEq]
  refine ⟨held, ?_, ?_, ?_, funext answer, ?_, issued⟩
  · exact funext fun t => propext (acquiring t)
  · exact funext fun t => funext fun h => propext (returning t h)
  · exact funext fun t => funext fun q => propext (flying t q)
  · exact funext fun h => propext (live h)

end KcfTools.Leases
