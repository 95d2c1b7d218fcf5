import Mathlib

/-!
# Two-step control

An action on a key is asked for first, which issues a token with a deadline, and takes effect only
after the token is confirmed in time and the queued action is applied. A token is consumed by a
confirm, a cancel or its expiry. `Ledger` is the state such a protocol keeps, `Step` what it allows,
and `Trace.accounts` what every history of it looks like: tokens are issued once and consumed once,
and the confirms and applications of a key alternate.
-/

universe u v w x

namespace TwoStep

/-- What a token stands for. -/
structure Request (κ : Type u) (α : Type v) (θ : Type w) where
  key : κ
  action : α
  deadline : θ

inductive Event (τ : Type x) (κ : Type u) (α : Type v) (θ : Type w) where
  | issued (token : τ) (request : Request κ α θ)
  | confirmed (token : τ) (key : κ) (action : α) (now : θ)
  | cancelled (token : τ)
  | expired (token : τ) (now : θ)
  | applied (key : κ) (action : α)

/-- Tokens ever issued, the requests still waiting for a confirm, the actions queued. -/
@[ext] structure Ledger (τ : Type x) (κ : Type u) (α : Type v) (θ : Type w) where
  known : Set τ
  live : τ → Option (Request κ α θ)
  queued : κ → Option α

variable {τ : Type x} {κ : Type u} {α : Type v} {θ : Type w}

/-- The token an event issues. -/
def Event.issues : Event τ κ α θ → Option τ
  | issued token _ => some token
  | _ => none

/-- The token an event consumes. -/
def Event.consumes : Event τ κ α θ → Option τ
  | confirmed token _ _ _ => some token
  | cancelled token => some token
  | expired token _ => some token
  | _ => none

def Ledger.empty : Ledger τ κ α θ := ⟨∅, fun _ => none, fun _ => none⟩

/-! ### What every history looks like -/

variable {l l' l'' : Ledger τ κ α θ} {es es' : List (Event τ κ α θ)}

/-- Event number `i` confirms a token for the key. -/
def ConfirmsAt (es : List (Event τ κ α θ)) (i : Nat) (k : κ) : Prop :=
  ∃ token a now, es[i]? = some (.confirmed token k a now)

/-- Nothing was applied to the key after event number `i` and before event number `j`. -/
def IdleBetween (es : List (Event τ κ α θ)) (i j : Nat) (k : κ) : Prop :=
  ∀ m b, i < m → m < j → es[m]? ≠ some (.applied k b)

lemma lt_length {e : Event τ κ α θ} {i : Nat} (h : es[i]? = some e) : i < es.length :=
  (List.getElem?_eq_some_iff.mp h).1

lemma getElem?_snoc {e e' : Event τ κ α θ} {i : Nat} :
    (es ++ [e])[i]? = some e' ↔ es[i]? = some e' ∨ i = es.length ∧ e' = e := by
  rw [List.getElem?_append]
  split_ifs with h
  · simp [h.ne]
  · rw [List.getElem?_eq_none (Nat.not_lt.mp h)]
    rcases Nat.eq_or_lt_of_le (Nat.not_lt.mp h) with rfl | hlt
    · simp [eq_comm]
    · have h₁ : i - es.length ≠ 0 := by omega
      simp [h₁, hlt.ne']

lemma confirmsAt_snoc {e : Event τ κ α θ} {i : Nat} {k : κ} (h : ConfirmsAt (es ++ [e]) i k) :
    ConfirmsAt es i k ∨ i = es.length ∧ ∃ token a now, e = .confirmed token k a now := by
  obtain ⟨token, a, now, h⟩ := h
  rcases getElem?_snoc.mp h with h | ⟨hi, rfl⟩
  · exact .inl ⟨token, a, now, h⟩
  · exact .inr ⟨hi, token, a, now, rfl⟩

lemma ConfirmsAt.lt {i : Nat} {k : κ} (h : ConfirmsAt es i k) : i < es.length := by
  obtain ⟨_, _, _, h⟩ := h
  exact lt_length h

lemma idleBetween_snoc {e : Event τ κ α θ} {i j : Nat} {k : κ} (hj : j ≤ es.length) :
    IdleBetween (es ++ [e]) i j k ↔ IdleBetween es i j k := by
  refine forall₂_congr fun m b => forall₂_congr fun _ hm => not_congr ?_
  rw [getElem?_snoc, or_iff_left]
  rintro ⟨rfl, -⟩
  omega

lemma idleBetween_snoc_length {e : Event τ κ α θ} {i : Nat} {k : κ} (hi : i < es.length) :
    IdleBetween (es ++ [e]) i (es ++ [e]).length k ↔
      IdleBetween es i es.length k ∧ ∀ b, e ≠ .applied k b := by
  simp only [List.length_append, List.length_singleton]
  constructor
  · intro h
    refine ⟨(idleBetween_snoc le_rfl).mp fun m b h₁ h₂ => h m b h₁ (by omega), fun b he => ?_⟩
    exact h es.length b hi (by omega) (getElem?_snoc.mpr (.inr ⟨rfl, he.symm⟩))
  · rintro ⟨h, he⟩ m b h₁ h₂ hm
    rcases getElem?_snoc.mp hm with hm | ⟨-, hm⟩
    · exact h m b h₁ (lt_length hm) hm
    · exact he b hm.symm

/-- Right after a confirm nothing was applied yet. -/
lemma idleBetween_last {e : Event τ κ α θ} {k : κ} :
    IdleBetween (es ++ [e]) es.length (es ++ [e]).length k := by
  intro m b h₁ h₂
  simp only [List.length_append, List.length_singleton] at h₂
  omega

variable [LinearOrder θ]

/-- The state of affairs after a history `es` that left the ledger `l`. -/
structure Accounts (es : List (Event τ κ α θ)) (l : Ledger τ κ α θ) : Prop where
  known : ∀ token r, .issued token r ∈ es → token ∈ l.known
  live : ∀ token r, l.live token = some r → .issued token r ∈ es
  issued_once : (es.filterMap Event.issues).Nodup
  spent : ∀ token ∈ es.filterMap Event.consumes, token ∈ l.known ∧ l.live token = none
  consumed_once : (es.filterMap Event.consumes).Nodup
  /-- A confirm is in time, and acts on the key and with the action that were asked for. -/
  in_time : ∀ (i : Nat) (token : τ) (k : κ) (a : α) (now : θ),
    es[i]? = some (.confirmed token k a now) →
      ∃ m d, m < i ∧ es[m]? = some (.issued token ⟨k, a, d⟩) ∧ now < d
  /-- What is queued was confirmed and not applied since. -/
  waiting : ∀ (k : κ) (a : α), l.queued k = some a → ∃ i token now,
    es[i]? = some (.confirmed token k a now) ∧ IdleBetween es i es.length k
  /-- Where nothing is queued, every confirm was followed by an application. -/
  served : ∀ (k : κ) (i : Nat), l.queued k = none → ConfirmsAt es i k →
    ¬ IdleBetween es i es.length k
  /-- Between two confirms of a key something was applied to it. -/
  alternate : ∀ (k : κ) (i j : Nat), i < j → ConfirmsAt es i k → ConfirmsAt es j k →
    ¬ IdleBetween es i j k
  /-- What is applied is what the last confirm of the key asked for. -/
  confirmed_before : ∀ (j : Nat) (k : κ) (a : α), es[j]? = some (.applied k a) →
    ∃ i token now, i < j ∧ es[i]? = some (.confirmed token k a now) ∧ IdleBetween es i j k

lemma Accounts.empty : Accounts [] (Ledger.empty : Ledger τ κ α θ) := by
  constructor <;> simp [Ledger.empty, ConfirmsAt]

namespace Accounts

/-- The confirms on record stay as they are when a history grows. -/
lemma alternate_snoc (h : Accounts es l) {e : Event τ κ α θ}
    (he : ∀ token k a now, e = .confirmed token k a now → l.queued k = none) (k : κ) (i j : Nat)
    (hij : i < j) (hi : ConfirmsAt (es ++ [e]) i k) (hj : ConfirmsAt (es ++ [e]) j k) :
    ¬ IdleBetween (es ++ [e]) i j k := by
  rcases confirmsAt_snoc hj with hj | ⟨rfl, token, a, now, rfl⟩
  · rcases confirmsAt_snoc hi with hi | ⟨rfl, -⟩
    · exact fun hidle => h.alternate k i j hij hi hj ((idleBetween_snoc hj.lt.le).mp hidle)
    · exact absurd hj.lt (by omega)
  · rcases confirmsAt_snoc hi with hi | ⟨rfl, -⟩
    · exact fun hidle => h.served k i (he _ _ _ _ rfl) hi ((idleBetween_snoc le_rfl).mp hidle)
    · exact absurd hij (by omega)

lemma in_time_snoc (h : Accounts es l) {e : Event τ κ α θ}
    (he : ∀ token k a now, e = .confirmed token k a now →
      ∃ d, l.live token = some ⟨k, a, d⟩ ∧ now < d) (i : Nat) (token : τ) (k : κ) (a : α) (now : θ)
    (hi : (es ++ [e])[i]? = some (.confirmed token k a now)) :
    ∃ m d, m < i ∧ (es ++ [e])[m]? = some (.issued token ⟨k, a, d⟩) ∧ now < d := by
  rcases getElem?_snoc.mp hi with hi | ⟨rfl, he'⟩
  · obtain ⟨m, d, hm, hiss, hd⟩ := h.in_time i token k a now hi
    exact ⟨m, d, hm, getElem?_snoc.mpr (.inl hiss), hd⟩
  · obtain ⟨d, hlive, hd⟩ := he token k a now he'.symm
    obtain ⟨m, hm⟩ := List.mem_iff_getElem?.mp (h.live token _ hlive)
    exact ⟨m, d, lt_length hm, getElem?_snoc.mpr (.inl hm), hd⟩

lemma confirmed_before_snoc (h : Accounts es l) {e : Event τ κ α θ}
    (he : ∀ k a, e = .applied k a → l.queued k = some a) (j : Nat) (k : κ) (a : α)
    (hj : (es ++ [e])[j]? = some (.applied k a)) :
    ∃ i token now, i < j ∧ (es ++ [e])[i]? = some (.confirmed token k a now) ∧
      IdleBetween (es ++ [e]) i j k := by
  rcases getElem?_snoc.mp hj with hj | ⟨rfl, he'⟩
  · obtain ⟨i, token, now, hij, hi, hidle⟩ := h.confirmed_before j k a hj
    exact ⟨i, token, now, hij, getElem?_snoc.mpr (.inl hi),
      (idleBetween_snoc (lt_length hj).le).mpr hidle⟩
  · obtain ⟨i, token, now, hi, hidle⟩ := h.waiting k a (he k a he'.symm)
    exact ⟨i, token, now, lt_length hi, getElem?_snoc.mpr (.inl hi),
      (idleBetween_snoc le_rfl).mpr hidle⟩

/-- A key whose queue an event leaves alone keeps its open confirm, or keeps having none. -/
lemma waiting_snoc (h : Accounts es l) {e : Event τ κ α θ} {k : κ} {a : α}
    (he : ∀ b, e ≠ .applied k b) (hq : l.queued k = some a) :
    ∃ i token now, (es ++ [e])[i]? = some (.confirmed token k a now) ∧
      IdleBetween (es ++ [e]) i (es ++ [e]).length k := by
  obtain ⟨i, token, now, hi, hidle⟩ := h.waiting k a hq
  exact ⟨i, token, now, getElem?_snoc.mpr (.inl hi),
    (idleBetween_snoc_length (lt_length hi)).mpr ⟨hidle, he⟩⟩

lemma served_snoc (h : Accounts es l) {e : Event τ κ α θ} {k : κ}
    (he : ∀ token a now, e ≠ .confirmed token k a now) (hq : l.queued k = none) (i : Nat)
    (hi : ConfirmsAt (es ++ [e]) i k) : ¬ IdleBetween (es ++ [e]) i (es ++ [e]).length k := by
  rcases confirmsAt_snoc hi with hi | ⟨-, token, a, now, rfl⟩
  · exact fun hidle => h.served k i hq hi ((idleBetween_snoc_length hi.lt).mp hidle).1
  · exact absurd rfl (he token a now)

end Accounts

/-! ### The protocol -/

variable [DecidableEq τ] [DecidableEq κ]

/-- The ledger without a token. -/
def Ledger.spend (l : Ledger τ κ α θ) (token : τ) : Ledger τ κ α θ :=
  { l with live := Function.update l.live token none }

inductive Step (l : Ledger τ κ α θ) : Event τ κ α θ → Ledger τ κ α θ → Prop where
  | issued {token : τ} {r : Request κ α θ} (fresh : token ∉ l.known) :
    Step l (.issued token r)
      { l with known := insert token l.known, live := Function.update l.live token (some r) }
  | confirmed {token : τ} {r : Request κ α θ} {now : θ} (live : l.live token = some r)
      (early : now < r.deadline) (free : l.queued r.key = none) :
    Step l (.confirmed token r.key r.action now)
      { l.spend token with queued := Function.update l.queued r.key (some r.action) }
  | cancelled {token : τ} {r : Request κ α θ} (live : l.live token = some r) :
    Step l (.cancelled token) (l.spend token)
  | expired {token : τ} {r : Request κ α θ} {now : θ} (live : l.live token = some r)
      (late : r.deadline ≤ now) : Step l (.expired token now) (l.spend token)
  | applied {k : κ} {a : α} (queued : l.queued k = some a) :
    Step l (.applied k a) { l with queued := Function.update l.queued k none }

/-- A history of the ledger, oldest event first. -/
inductive Trace (l : Ledger τ κ α θ) : List (Event τ κ α θ) → Ledger τ κ α θ → Prop where
  | nil : Trace l [] l
  | snoc {es : List (Event τ κ α θ)} {e : Event τ κ α θ} {l' l'' : Ledger τ κ α θ}
      (trace : Trace l es l') (step : Step l' e l'') : Trace l (es ++ [e]) l''

namespace Trace

lemma single {e : Event τ κ α θ} (h : Step l e l') : Trace l [e] l' := .snoc .nil h

lemma trans (h : Trace l es l') (h' : Trace l' es' l'') : Trace l (es ++ es') l'' := by
  induction h' with
  | nil => simpa using h
  | snoc _ hstep ih =>
    rw [← List.append_assoc]
    exact .snoc ih hstep

/-- Several tokens expire, in any order. -/
lemma expired_all {tokens : List τ} {now : θ} (hnd : tokens.Nodup)
    (hlate : ∀ t ∈ tokens, ∃ r, l.live t = some r ∧ r.deadline ≤ now)
    (hknown : l'.known = l.known) (hqueued : l'.queued = l.queued)
    (hlive : ∀ t, l'.live t = if t ∈ tokens then none else l.live t) :
    Trace l (tokens.map (Event.expired · now)) l' := by
  induction tokens generalizing l with
  | nil =>
    obtain rfl : l' = l := by
      ext1
      · exact hknown
      · exact funext fun t => by simpa using hlive t
      · exact hqueued
    exact .nil
  | cons t ts ih =>
    obtain ⟨r, hr, hr'⟩ := hlate t (by simp)
    rw [List.map_cons]
    refine (single (.expired hr hr')).trans (ih (List.nodup_cons.mp hnd).2 ?_ hknown hqueued ?_)
    · intro t' ht'
      obtain ⟨r', h⟩ := hlate t' (by simp [ht'])
      have hne : t' ≠ t := fun h => (List.nodup_cons.mp hnd).1 (h ▸ ht')
      exact ⟨r', by simpa [Ledger.spend, Function.update_of_ne hne] using h⟩
    · intro t'
      rw [hlive t']
      by_cases h : t' = t
      · simp [h, Ledger.spend]
      · simp [h, Ledger.spend]

/-- All that is queued under some keys is applied, in any order. -/
lemma applied_all {entries : List (κ × α)} (hnd : (entries.map Prod.fst).Nodup)
    (hmem : ∀ e ∈ entries, l.queued e.1 = some e.2)
    (hknown : l'.known = l.known) (hlive : l'.live = l.live)
    (hqueued : ∀ k, l'.queued k = if k ∈ entries.map Prod.fst then none else l.queued k) :
    Trace l (entries.map fun e => .applied e.1 e.2) l' := by
  induction entries generalizing l with
  | nil =>
    obtain rfl : l' = l := by
      ext1
      · exact hknown
      · exact hlive
      · exact funext fun k => by simpa using hqueued k
    exact .nil
  | cons e es ih =>
    simp only [List.map_cons, List.nodup_cons] at hnd
    rw [List.map_cons]
    refine (single (.applied (hmem e (by simp)))).trans (ih hnd.2 ?_ hknown hlive ?_)
    · intro e' he'
      have hne : e'.1 ≠ e.1 := fun h => hnd.1 (h ▸ List.mem_map_of_mem he')
      simpa [Function.update_of_ne hne] using hmem e' (by simp [he'])
    · intro k
      rw [hqueued k]
      by_cases h : k = e.1
      · simp [h]
      · simp only [List.map_cons, List.mem_cons, h, false_or, Function.update_of_ne, ne_eq,
          not_false_eq_true]

end Trace

/-! ### Every history adds up -/

namespace Accounts

omit [DecidableEq κ] in
lemma of_issued (h : Accounts es l) {token : τ} {r : Request κ α θ} (fresh : token ∉ l.known) :
    Accounts (es ++ [.issued token r])
      { l with known := insert token l.known, live := Function.update l.live token (some r) } where
  known := by
    intro t r' ht
    simp only [List.mem_append, List.mem_singleton, Event.issued.injEq] at ht
    rcases ht with ht | ⟨rfl, -⟩
    · exact .inr (h.known t r' ht)
    · exact .inl rfl
  live := by
    intro t r' ht
    rcases eq_or_ne t token with rfl | hne
    · simp_all
    · simp only [Function.update_of_ne hne] at ht
      exact List.mem_append_left _ (h.live t r' ht)
  issued_once := by
    rw [List.filterMap_append, List.nodup_append]
    refine ⟨h.issued_once, by simp [Event.issues], ?_⟩
    rintro t ht t' ht' rfl
    obtain ⟨e, he, hes⟩ := List.mem_filterMap.mp ht
    obtain rfl : t = token := by simpa [List.filterMap_cons, Event.issues] using ht'
    cases e <;> simp only [Event.issues, reduceCtorEq, Option.some.injEq] at hes
    exact fresh (hes ▸ h.known _ _ he)
  spent := by
    intro t ht
    rw [List.filterMap_append, List.mem_append] at ht
    rcases ht with ht | ht
    · obtain ⟨hknown, hlive⟩ := h.spent t ht
      have hne : t ≠ token := fun heq => fresh (heq ▸ hknown)
      exact ⟨.inr hknown, by simpa [Function.update_of_ne hne] using hlive⟩
    · simp [Event.consumes] at ht
  consumed_once := by
    rw [List.filterMap_append]
    simpa [List.filterMap_cons, Event.consumes] using h.consumed_once
  in_time := h.in_time_snoc (by simp)
  waiting := fun k a hq => h.waiting_snoc (by simp) hq
  served := fun k i hq hi => h.served_snoc (by simp) hq i hi
  alternate := h.alternate_snoc (by simp)
  confirmed_before := h.confirmed_before_snoc (by simp)

omit [DecidableEq τ] in
lemma of_applied (h : Accounts es l) {k : κ} {a : α} (queued : l.queued k = some a) :
    Accounts (es ++ [.applied k a]) { l with queued := Function.update l.queued k none } where
  known := by
    intro t r ht
    simp only [List.mem_append, List.mem_singleton, reduceCtorEq, or_false] at ht
    exact h.known t r ht
  live := fun t r ht => List.mem_append_left _ (h.live t r ht)
  issued_once := by
    rw [List.filterMap_append]
    simpa [List.filterMap_cons, Event.issues] using h.issued_once
  spent := by
    rw [List.filterMap_append]
    simpa [List.filterMap_cons, Event.consumes] using h.spent
  consumed_once := by
    rw [List.filterMap_append]
    simpa [List.filterMap_cons, Event.consumes] using h.consumed_once
  in_time := h.in_time_snoc (by simp)
  waiting := by
    intro k' b hq
    rcases eq_or_ne k' k with rfl | hne
    · simp at hq
    · simp only [Function.update_of_ne hne] at hq
      exact h.waiting_snoc (fun _ he => hne (Event.applied.inj he).1.symm) hq
  served := by
    intro k' i hq hi
    rcases eq_or_ne k' k with rfl | hne
    · rcases confirmsAt_snoc hi with hi | ⟨-, _, _, _, hc⟩
      · exact fun hidle => ((idleBetween_snoc_length hi.lt).mp hidle).2 a rfl
      · cases hc
    · simp only [Function.update_of_ne hne] at hq
      exact h.served_snoc (by simp) hq i hi
  alternate := h.alternate_snoc (by simp)
  confirmed_before := h.confirmed_before_snoc (by
    intro k' b he
    obtain ⟨rfl, rfl⟩ := Event.applied.inj he
    exact queued)

omit [DecidableEq κ] in
/-- What a confirm, a cancel and an expiry have in common: a live token is spent. -/
lemma of_spent (h : Accounts es l) {token : τ} {r : Request κ α θ} {e : Event τ κ α θ}
    (live : l.live token = some r) (hissues : e.issues = none) (hconsumes : e.consumes = some token)
    (queued : κ → Option α)
    (htime : ∀ t k a now, e = .confirmed t k a now → ∃ d, l.live t = some ⟨k, a, d⟩ ∧ now < d)
    (hfree : ∀ t k a now, e = .confirmed t k a now → l.queued k = none)
    (hwaiting : ∀ k a, queued k = some a → ∃ i t now,
      (es ++ [e])[i]? = some (.confirmed t k a now) ∧
        IdleBetween (es ++ [e]) i (es ++ [e]).length k)
    (hserved : ∀ k i, queued k = none → ConfirmsAt (es ++ [e]) i k →
      ¬ IdleBetween (es ++ [e]) i (es ++ [e]).length k) :
    Accounts (es ++ [e]) { l.spend token with queued } where
  known := by
    intro t r' ht
    simp only [List.mem_append, List.mem_singleton] at ht
    rcases ht with ht | rfl
    · exact h.known t r' ht
    · cases hissues
  live := by
    intro t r' ht
    rcases eq_or_ne t token with rfl | hne
    · simp [Ledger.spend] at ht
    · simp only [Ledger.spend, Function.update_of_ne hne] at ht
      exact List.mem_append_left _ (h.live t r' ht)
  issued_once := by
    rw [List.filterMap_append]
    simpa [hissues] using h.issued_once
  spent := by
    intro t ht
    simp only [List.filterMap_append, List.mem_append, List.filterMap_cons, hconsumes,
      List.filterMap_nil, List.mem_singleton] at ht
    rcases ht with ht | rfl
    · obtain ⟨hknown, hlive⟩ := h.spent t ht
      refine ⟨hknown, ?_⟩
      simp only [Ledger.spend, Function.update_apply, hlive, ite_self]
    · exact ⟨h.known t r (h.live t r live), by simp [Ledger.spend]⟩
  consumed_once := by
    rw [List.filterMap_append, List.nodup_append]
    refine ⟨h.consumed_once, by simp [hconsumes], ?_⟩
    rintro t ht t' ht' rfl
    obtain rfl : t = token := by simpa [hconsumes] using ht'
    rw [(h.spent t ht).2] at live
    cases live
  in_time := h.in_time_snoc htime
  waiting := hwaiting
  served := hserved
  alternate := h.alternate_snoc hfree
  confirmed_before := h.confirmed_before_snoc (by
    rintro k a rfl
    cases hconsumes)

lemma step (h : Accounts es l) {e : Event τ κ α θ} (hs : Step l e l') : Accounts (es ++ [e]) l' := by
  cases hs with
  | issued fresh => exact h.of_issued fresh
  | @confirmed token r now live early free =>
    refine h.of_spent live rfl rfl _ ?_ ?_ ?_ ?_
    · rintro t k a now' he
      obtain ⟨rfl, rfl, rfl, rfl⟩ := Event.confirmed.inj he
      exact ⟨r.deadline, live, early⟩
    · rintro t k a now' he
      obtain ⟨rfl, rfl, rfl, rfl⟩ := Event.confirmed.inj he
      exact free
    · intro k a hq
      rcases eq_or_ne k r.key with rfl | hne
      · obtain rfl : r.action = a := by simpa using hq
        exact ⟨es.length, token, now, getElem?_snoc.mpr (.inr ⟨rfl, rfl⟩), idleBetween_last⟩
      · simp only [Function.update_of_ne hne] at hq
        exact h.waiting_snoc (by simp) hq
    · intro k i hq hi
      rcases eq_or_ne k r.key with rfl | hne
      · simp at hq
      · simp only [Function.update_of_ne hne] at hq
        refine h.served_snoc ?_ hq i hi
        rintro t a now' he
        exact hne (Event.confirmed.inj he).2.1.symm
  | cancelled live =>
    exact h.of_spent live rfl rfl l.queued (by simp) (by simp)
      (fun k a hq => h.waiting_snoc (by simp) hq) fun k i hq hi => h.served_snoc (by simp) hq i hi
  | expired live =>
    exact h.of_spent live rfl rfl l.queued (by simp) (by simp)
      (fun k a hq => h.waiting_snoc (by simp) hq) fun k i hq hi => h.served_snoc (by simp) hq i hi
  | applied queued => exact h.of_applied queued

end Accounts

/-- Every history of the protocol adds up. -/
theorem Trace.accounts (h : Trace Ledger.empty es l) : Accounts es l := by
  induction h with
  | nil => exact .empty
  | snoc _ hs ih => exact ih.step hs

section Consequences

omit [DecidableEq τ] [DecidableEq κ]

omit [LinearOrder θ] in
/-- No two events carry the same token, where the tokens of a history are all different. -/
lemma index_unique {f : Event τ κ α θ → Option τ} (hnd : (es.filterMap f).Nodup) {i j : Nat}
    {e e' : Event τ κ α θ} {token : τ} (hi : es[i]? = some e) (hj : es[j]? = some e')
    (he : f e = some token) (he' : f e' = some token) : i = j := by
  have hpair := List.pairwise_iff_getElem.mp (List.pairwise_filterMap.mp hnd)
  obtain ⟨hi', rfl⟩ := List.getElem?_eq_some_iff.mp hi
  obtain ⟨hj', rfl⟩ := List.getElem?_eq_some_iff.mp hj
  rcases Nat.lt_trichotomy i j with hlt | heq | hlt
  · exact absurd rfl (hpair i j hi' hj' hlt token he token he')
  · exact heq
  · exact absurd rfl (hpair j i hj' hi' hlt token he' token he)

namespace Accounts

/-- A token that was cancelled or expired was never confirmed. -/
theorem not_confirmed (h : Accounts es l) {token : τ} {e : Event τ κ α θ} (he : e ∈ es)
    (hc : e.consumes = some token) (hne : ∀ k a now, e ≠ .confirmed token k a now) {k : κ} {a : α}
    {now : θ} : .confirmed token k a now ∉ es := by
  intro hmem
  obtain ⟨i, hi⟩ := List.mem_iff_getElem?.mp he
  obtain ⟨j, hj⟩ := List.mem_iff_getElem?.mp hmem
  obtain rfl := index_unique h.consumed_once hi hj hc rfl
  exact hne k a now (Option.some.inj (hi.symm.trans hj))

/-- One confirm of the key is open when something is applied to it. -/
theorem open_unique (h : Accounts es l) {j : Nat} {k : κ} {a : α}
    (hj : es[j]? = some (.applied k a)) :
    ∃! i, i < j ∧ ConfirmsAt es i k ∧ IdleBetween es i j k := by
  obtain ⟨i, token, now, hij, hi, hidle⟩ := h.confirmed_before j k a hj
  refine ⟨i, ⟨hij, ⟨token, a, now, hi⟩, hidle⟩, ?_⟩
  rintro i' ⟨hij', hi', hidle'⟩
  rcases Nat.lt_trichotomy i' i with hlt | heq | hlt
  · exact absurd (fun m b h₁ h₂ => hidle' m b h₁ (h₂.trans hij))
      (h.alternate k i' i hlt hi' ⟨token, a, now, hi⟩)
  · exact heq
  · exact absurd (fun m b h₁ h₂ => hidle m b h₁ (h₂.trans hij'))
      (h.alternate k i i' hlt ⟨token, a, now, hi⟩ hi')

/-- A confirmed token was issued by exactly one earlier request, for that key and action and with a
later deadline. -/
theorem issue_unique (h : Accounts es l) {i : Nat} {token : τ} {k : κ} {a : α} {now : θ}
    (hi : es[i]? = some (.confirmed token k a now)) :
    ∃! m, ∃ r, es[m]? = some (.issued token r) ∧ m < i ∧ r.key = k ∧ r.action = a ∧
      now < r.deadline := by
  obtain ⟨m, d, hm, hiss, hd⟩ := h.in_time i token k a now hi
  refine ⟨m, ⟨_, hiss, hm, rfl, rfl, hd⟩, ?_⟩
  rintro m' ⟨r, hiss', -⟩
  exact index_unique h.issued_once hiss' hiss rfl rfl

end Accounts

end Consequences

end TwoStep
