import Mathlib

/-!
# Ordered finite maps

Lookups in `Std.ExtTreeMap` after the bulk updates a program makes: erasing a list of keys,
writing one map over another entry by entry, and keeping the entries a predicate accepts, where
evaluating the predicate may fail. Every lemma is a statement about one key.
-/

open Std

namespace OrderedMap

universe u v w

variable {κ : Type u} {α : Type v} {β : Type w} [Ord κ] [TransOrd κ] [LawfulEqOrd κ]

lemma getElem?_insert [DecidableEq κ] (m : ExtTreeMap κ α) (k a : κ) (v : α) :
    (m.insert k v)[a]? = if k = a then some v else m[a]? := by
  simp only [ExtTreeMap.getElem?_insert, LawfulEqCmp.compare_eq_iff_eq]

lemma getElem?_erase [DecidableEq κ] (m : ExtTreeMap κ α) (k a : κ) :
    (m.erase k)[a]? = if k = a then none else m[a]? := by
  simp only [ExtTreeMap.getElem?_erase, LawfulEqCmp.compare_eq_iff_eq]

/-- Erase every key of a list. -/
def eraseAll (m : ExtTreeMap κ α) (ks : List κ) : ExtTreeMap κ α := ks.foldl ExtTreeMap.erase m

lemma getElem?_eraseAll [DecidableEq κ] (m : ExtTreeMap κ α) (ks : List κ) (a : κ) :
    (eraseAll m ks)[a]? = if a ∈ ks then none else m[a]? := by
  induction ks generalizing m with
  | nil => simp [eraseAll]
  | cons k ks ih =>
    have hcons : eraseAll m (k :: ks) = eraseAll (m.erase k) ks := rfl
    rw [hcons, ih, getElem?_erase]
    by_cases hk : a = k
    · simp [hk]
    · have hk' : k ≠ a := fun h => hk h.symm
      simp [hk, hk']

/-- Write entries over a map one by one; an entry without a value erases its key. -/
def overwrite (f : α → Option β) (m : ExtTreeMap κ β) (entries : List (κ × α)) :
    ExtTreeMap κ β :=
  entries.foldl (fun m e => match f e.2 with
    | some b => m.insert e.1 b
    | none => m.erase e.1) m

lemma getElem?_overwrite_of_notMem [DecidableEq κ] (f : α → Option β) {entries : List (κ × α)}
    (m : ExtTreeMap κ β) {a : κ} (ha : a ∉ entries.map Prod.fst) :
    (overwrite f m entries)[a]? = m[a]? := by
  induction entries generalizing m with
  | nil => rfl
  | cons e es ih =>
    simp only [List.map_cons, List.mem_cons, not_or] at ha
    have hne : e.1 ≠ a := fun h => ha.1 h.symm
    simp only [overwrite, List.foldl_cons] at ih ⊢
    rw [ih _ ha.2]
    cases f e.2 with
    | none => simp [getElem?_erase, hne]
    | some b => simp [getElem?_insert, hne]

lemma getElem?_overwrite_of_mem [DecidableEq κ] (f : α → Option β) {entries : List (κ × α)}
    (m : ExtTreeMap κ β) (hnd : (entries.map Prod.fst).Nodup) {a : κ} {v : α}
    (ha : (a, v) ∈ entries) : (overwrite f m entries)[a]? = f v := by
  induction entries generalizing m with
  | nil => simp at ha
  | cons e es ih =>
    simp only [List.map_cons, List.nodup_cons] at hnd
    rcases List.mem_cons.mp ha with rfl | ha
    · have hrest := getElem?_overwrite_of_notMem f
        (match f v with
          | some b => m.insert a b
          | none => m.erase a) hnd.1
      refine (hrest : (overwrite f m ((a, v) :: es))[a]? = _).trans ?_
      cases f v with
      | none => simp
      | some b => simp
    · exact ih _ hnd.2 ha

omit [LawfulEqOrd κ] in
lemma nodup_keys_toList (m : ExtTreeMap κ α) : (m.toList.map Prod.fst).Nodup := by
  rw [ExtTreeMap.map_fst_toList_eq_keys]
  exact ExtTreeMap.nodup_keys

/-- Writing all entries of one map over another: they win, the other keys stay. -/
lemma getElem?_overwrite_toList [DecidableEq κ] (f : α → Option β) (m : ExtTreeMap κ β)
    (p : ExtTreeMap κ α) (a : κ) :
    (overwrite f m p.toList)[a]? = (p[a]?).elim m[a]? f := by
  cases hp : p[a]? with
  | none =>
    refine getElem?_overwrite_of_notMem f m fun ha => ?_
    obtain ⟨⟨k, v⟩, hmem, rfl⟩ := List.mem_map.mp ha
    rw [ExtTreeMap.mem_toList_iff_getElem?_eq_some] at hmem
    simp [hp] at hmem
  | some v =>
    exact getElem?_overwrite_of_mem f m (nodup_keys_toList p)
      (ExtTreeMap.mem_toList_iff_getElem?_eq_some.mpr hp)

/-- Where two maps agree on the entries `f` picks out, it picks out the same, in the same order. -/
lemma filterMap_toList_congr {γ : Type*} {f : κ × α → Option γ} {m m' : ExtTreeMap κ α}
    (h : ∀ k v, (f (k, v)).isSome → (m[k]? = some v ↔ m'[k]? = some v)) :
    m.toList.filterMap f = m'.toList.filterMap f := by
  have hpick : ∀ l : List (κ × α), l.filterMap f = (l.filter fun e => (f e).isSome).filterMap f := by
    intro l
    rw [List.filterMap_filter]
    refine List.filterMap_congr fun e _ => ?_
    cases hf : f e <;> simp
  have hsorted : ∀ m : ExtTreeMap κ α, (m.toList.filter fun e => (f e).isSome).Pairwise
      fun a b => compare a.1 b.1 = .lt :=
    fun m => ExtTreeMap.ordered_keys_toList.filter _
  have hnd : ∀ m : ExtTreeMap κ α, (m.toList.filter fun e => (f e).isSome).Nodup :=
    fun m => (List.Nodup.of_map _ (nodup_keys_toList m)).filter _
  rw [hpick, hpick m'.toList]
  congr 1
  refine List.Perm.eq_of_pairwise (fun a b _ _ hab hba => ?_) (hsorted m) (hsorted m') ?_
  · have hswap : compare a.1 b.1 = (compare b.1 a.1).swap := OrientedCmp.eq_swap
    rw [hswap, hba] at hab
    cases hab
  · refine (List.perm_ext_iff_of_nodup (hnd m) (hnd m')).mpr ?_
    rintro ⟨k, v⟩
    simp only [List.mem_filter, ExtTreeMap.mem_toList_iff_getElem?_eq_some]
    exact and_congr_left (h k v)

section Retain

variable {κ α φ : Type} [Ord κ] [TransOrd κ] [LawfulEqOrd κ]

/-- One visit of `retain`. -/
def retainStep (f : κ → α → Except φ Bool) (m : ExtTreeMap κ α) (e : κ × α) :
    Except φ (ExtTreeMap κ α) :=
  (f e.1 e.2).map fun keep => if keep then m else m.erase e.1

/-- Keep the entries that `f` accepts, visiting them in order; `f` may fail on an entry. -/
def retain (f : κ → α → Except φ Bool) (m : ExtTreeMap κ α) : Except φ (ExtTreeMap κ α) :=
  m.toList.foldlM (retainStep f) m

lemma retainStep_eq_ok [DecidableEq κ] {f : κ → α → Except φ Bool} {m m' : ExtTreeMap κ α}
    {e : κ × α} (h : retainStep f m e = .ok m') :
    ∃ keep, f e.1 e.2 = .ok keep ∧
      ∀ a, m'[a]? = if e.1 = a ∧ keep = false then none else m[a]? := by
  unfold retainStep at h
  cases hf : f e.1 e.2 with
  | error x => simp [hf, Except.map] at h
  | ok keep =>
    simp only [hf, Except.map, Except.ok.injEq] at h
    refine ⟨keep, rfl, fun a => ?_⟩
    cases keep <;> simp [← h, getElem?_erase]

lemma foldlM_cons_eq_ok {γ δ : Type} {g : γ → δ → Except φ γ} {c c' : γ} {d : δ} {ds : List δ}
    (h : (d :: ds).foldlM g c = .ok c') : ∃ c₁, g c d = .ok c₁ ∧ ds.foldlM g c₁ = .ok c' := by
  rw [List.foldlM_cons] at h
  cases hg : g c d with
  | error x => simp [hg, bind, Except.bind] at h
  | ok c₁ => exact ⟨c₁, rfl, by simpa [hg, bind, Except.bind] using h⟩

lemma retain_visits_of_notMem [DecidableEq κ] {f : κ → α → Except φ Bool}
    {entries : List (κ × α)} {m m' : ExtTreeMap κ α}
    (h : entries.foldlM (retainStep f) m = .ok m') {a : κ} (ha : a ∉ entries.map Prod.fst) :
    m'[a]? = m[a]? := by
  induction entries generalizing m with
  | nil =>
    obtain rfl := Except.ok.inj h
    rfl
  | cons e es ih =>
    simp only [List.map_cons, List.mem_cons, not_or] at ha
    obtain ⟨m₁, hm₁, hes⟩ := foldlM_cons_eq_ok h
    obtain ⟨keep, -, hget⟩ := retainStep_eq_ok hm₁
    rw [ih hes ha.2, hget, if_neg fun hk => ha.1 hk.1.symm]

lemma retain_visits_of_mem [DecidableEq κ] {f : κ → α → Except φ Bool}
    {entries : List (κ × α)} (hnd : (entries.map Prod.fst).Nodup) {m m' : ExtTreeMap κ α}
    (h : entries.foldlM (retainStep f) m = .ok m') {a : κ} {v : α} (ha : (a, v) ∈ entries) :
    ∃ keep, f a v = .ok keep ∧ m'[a]? = if keep then m[a]? else none := by
  induction entries generalizing m with
  | nil => simp at ha
  | cons e es ih =>
    simp only [List.map_cons, List.nodup_cons] at hnd
    obtain ⟨m₁, hm₁, hes⟩ := foldlM_cons_eq_ok h
    obtain ⟨keep, hf, hget⟩ := retainStep_eq_ok hm₁
    rcases List.mem_cons.mp ha with rfl | ha
    · refine ⟨keep, hf, ?_⟩
      have hrest : m'[a]? = m₁[a]? := retain_visits_of_notMem hes hnd.1
      rw [hrest, hget]
      cases keep <;> simp
    · obtain ⟨keep', hf', hget'⟩ := ih hnd.2 hes ha
      refine ⟨keep', hf', ?_⟩
      have hne : e.1 ≠ a := fun he => hnd.1 (List.mem_map.mpr ⟨(a, v), ha, he.symm⟩)
      have hsame : m₁[a]? = m[a]? := by rw [hget, if_neg fun hk => hne hk.1]
      rw [hget', hsame]

/-- What `retain` leaves at a key: the entry, if `f` accepts it. -/
lemma getElem?_retain [DecidableEq κ] {f : κ → α → Except φ Bool} {m m' : ExtTreeMap κ α}
    (h : retain f m = .ok m') {a : κ} {v : α} :
    m'[a]? = some v ↔ m[a]? = some v ∧ f a v = .ok true := by
  cases hm : m[a]? with
  | none =>
    have hnot : a ∉ m.toList.map Prod.fst := by
      rintro ha
      obtain ⟨⟨k, v⟩, hmem, rfl⟩ := List.mem_map.mp ha
      simp [ExtTreeMap.mem_toList_iff_getElem?_eq_some.mp hmem] at hm
    simp [retain_visits_of_notMem h hnot, hm]
  | some w =>
    obtain ⟨keep, hf, hget⟩ := retain_visits_of_mem (nodup_keys_toList m) h
      (ExtTreeMap.mem_toList_iff_getElem?_eq_some.mpr hm)
    rw [hget, hm, Option.some.injEq]
    constructor
    · intro hv
      cases keep with
      | false => simp at hv
      | true =>
        obtain rfl : w = v := by simpa using hv
        exact ⟨rfl, hf⟩
    · rintro ⟨rfl, hft⟩
      obtain rfl : keep = true := Except.ok.inj (hf.symm.trans hft)
      simp

/-- Where `retain` succeeds, `f` judged every entry. -/
lemma judged_of_retain [DecidableEq κ] {f : κ → α → Except φ Bool} {m m' : ExtTreeMap κ α}
    (h : retain f m = .ok m') {a : κ} {v : α} (ha : m[a]? = some v) : ∃ keep, f a v = .ok keep := by
  obtain ⟨keep, hf, -⟩ := retain_visits_of_mem (nodup_keys_toList m) h
    (ExtTreeMap.mem_toList_iff_getElem?_eq_some.mpr ha)
  exact ⟨keep, hf⟩

omit [LawfulEqOrd κ] in
lemma exists_retain_visits {f : κ → α → Except φ Bool} {entries : List (κ × α)}
    (hf : ∀ e ∈ entries, ∃ keep, f e.1 e.2 = .ok keep) (m : ExtTreeMap κ α) :
    ∃ m', entries.foldlM (retainStep f) m = .ok m' := by
  induction entries generalizing m with
  | nil => exact ⟨m, rfl⟩
  | cons e es ih =>
    obtain ⟨keep, hkeep⟩ := hf e (by simp)
    obtain ⟨m', hm'⟩ := ih (fun e he => hf e (by simp [he])) (if keep then m else m.erase e.1)
    refine ⟨m', ?_⟩
    rw [List.foldlM_cons, retainStep, hkeep]
    exact hm'

/-- `retain` fails on no map whose every entry `f` can judge. -/
lemma exists_retain {f : κ → α → Except φ Bool} {m : ExtTreeMap κ α}
    (hf : ∀ a v, m[a]? = some v → ∃ keep, f a v = .ok keep) : ∃ m', retain f m = .ok m' :=
  exists_retain_visits
    (fun e he => hf e.1 e.2 (ExtTreeMap.mem_toList_iff_getElem?_eq_some.mp he)) m

lemma erase_eq_of_size {m : ExtTreeMap κ α} {k : κ} (h : (m.erase k).size = m.size) :
    m.erase k = m := by
  classical
  refine ExtTreeMap.ext_getElem? fun a => ?_
  rw [getElem?_erase]
  split_ifs with hk
  · subst hk
    rw [ExtTreeMap.size_erase] at h
    split_ifs at h with hc
    · have hzero : m.size = 0 := by omega
      simp [ExtTreeMap.eq_empty_iff_size_eq_zero.mpr hzero]
    · exact (ExtTreeMap.getElem?_eq_none fun hm => hc (ExtTreeMap.contains_iff_mem.mpr hm)).symm
  · rfl

lemma retain_visits_size {f : κ → α → Except φ Bool} {entries : List (κ × α)}
    {m m' : ExtTreeMap κ α} (h : entries.foldlM (retainStep f) m = .ok m') :
    m'.size ≤ m.size ∧ (m'.size = m.size → m' = m) := by
  induction entries generalizing m with
  | nil =>
    obtain rfl := Except.ok.inj h
    exact ⟨le_rfl, fun _ => rfl⟩
  | cons e es ih =>
    obtain ⟨m₁, hm₁, hes⟩ := foldlM_cons_eq_ok h
    obtain ⟨hle, heq⟩ := ih hes
    unfold retainStep at hm₁
    cases hf : f e.1 e.2 with
    | error x => simp [hf, Except.map] at hm₁
    | ok keep =>
      simp only [hf, Except.map, Except.ok.injEq] at hm₁
      cases keep with
      | true =>
        obtain rfl : m = m₁ := by simpa using hm₁
        exact ⟨hle, heq⟩
      | false =>
        obtain rfl : m.erase e.1 = m₁ := by simpa using hm₁
        have herase : (m.erase e.1).size ≤ m.size := ExtTreeMap.size_erase_le
        refine ⟨hle.trans herase, fun hsize => ?_⟩
        rw [heq (by omega), erase_eq_of_size (by omega)]

/-- `retain` that keeps the size keeps the map. -/
lemma retain_eq_of_size {f : κ → α → Except φ Bool} {m m' : ExtTreeMap κ α}
    (h : retain f m = .ok m') (hsize : m'.size = m.size) : m' = m :=
  (retain_visits_size h).2 hsize

end Retain

end OrderedMap
