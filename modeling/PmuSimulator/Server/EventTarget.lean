import Mathlib
import PmuSimulator.Platform

/-!
# Tokens

Every source of events is registered under a token: a listener under the index of its endpoint, a
connection under a number that its endpoint, its slot and its identifier can be read off from.
-/

namespace PmuSimulator

def pdcSlotsPerEndpoint : Nat := 2

def managementConnectionLimit : Nat := 8

/-- `MANAGEMENT_TOKEN_BASE`: the upper half of the tokens is for management. -/
def managementTokenBase : Nat := u64Max / 2 + 1

def managementListenerToken : Nat := managementTokenBase

inductive EventTarget where
  | listener (endpointIndex : Nat)
  | connection (endpointIndex slotIndex connectionId : Nat)
  | managementListener
  | managementConnection (slotIndex connectionId : Nat)
  deriving DecidableEq, Repr

def listenerToken (index : Nat) : Nat := index

def connectionToken (endpointCount endpointIndex slotIndex connectionId : Nat) :
    Except ServerError Nat :=
  let token := do
    let value ← checkedMul connectionId endpointCount
    let value ← checkedAdd value endpointIndex
    let value ← checkedMul value pdcSlotsPerEndpoint
    let value ← checkedAdd value slotIndex
    checkedAdd value endpointCount
  match token with
  | none => .error (.message "connection token exceeds the platform token range")
  | some token =>
    if token ≥ managementTokenBase then
      .error (.message "connection token exceeds the reserved PDC token range")
    else
      .ok token

def managementConnectionToken (slotIndex connectionId : Nat) : Except ServerError Nat :=
  let token := do
    let value ← checkedSub connectionId 1
    let value ← checkedMul value managementConnectionLimit
    let value ← checkedAdd value slotIndex
    let encoded ← checkedAdd value 1
    checkedAdd managementTokenBase encoded
  match token with
  | none => .error (.message "management connection token exceeds the platform token range")
  | some token => .ok token

/-- `event_target`. -/
def eventTarget (token endpointCount : Nat) : Option EventTarget :=
  if token = managementListenerToken then some .managementListener
  else if token > managementTokenBase then
    let encoded := token - (managementTokenBase + 1)
    some (.managementConnection (encoded % managementConnectionLimit)
      (encoded / managementConnectionLimit + 1))
  else if token < endpointCount then some (.listener token)
  else if endpointCount = 0 then none
  else
    let encoded := token - endpointCount
    let endpointAndConnection := encoded / pdcSlotsPerEndpoint
    let connectionId := endpointAndConnection / endpointCount
    if connectionId ≠ 0 then
      some (.connection (endpointAndConnection % endpointCount) (encoded % pdcSlotsPerEndpoint)
        connectionId)
    else none

/-! ### Sources of events -/

lemma checkedMul_eq_some {a b c : Nat} : checkedMul a b = some c ↔ a * b ≤ u64Max ∧ c = a * b := by
  unfold checkedMul
  split <;> simp_all [eq_comm]

lemma connectionToken_eq_ok {endpointCount endpointIndex slotIndex connectionId token : Nat} :
    connectionToken endpointCount endpointIndex slotIndex connectionId = .ok token ↔
      token = (connectionId * endpointCount + endpointIndex) * pdcSlotsPerEndpoint + slotIndex +
          endpointCount ∧
        token < managementTokenBase := by
  have hbase : managementTokenBase ≤ u64Max := by decide
  simp only [connectionToken, pdcSlotsPerEndpoint]
  constructor
  · intro h
    split at h
    · cases h
    · rename_i value hvalue
      simp only [Option.bind_eq_bind, Option.bind_eq_some_iff, checkedMul_eq_some,
        checkedAdd_eq_some] at hvalue
      obtain ⟨_, ⟨-, rfl⟩, _, ⟨-, rfl⟩, _, ⟨-, rfl⟩, _, ⟨-, rfl⟩, -, rfl⟩ := hvalue
      split at h
      · cases h
      · rename_i hrange
        cases h
        exact ⟨rfl, Nat.not_le.mp hrange⟩
  · rintro ⟨rfl, hrange⟩
    simp only [checkedMul, checkedAdd]
    generalize connectionId * endpointCount = product at *
    have hproduct : product ≤ u64Max := by omega
    have hindex : product + endpointIndex ≤ u64Max := by omega
    have hslots : (product + endpointIndex) * 2 ≤ u64Max := by omega
    have hslot : (product + endpointIndex) * 2 + slotIndex ≤ u64Max := by omega
    have hcount : (product + endpointIndex) * 2 + slotIndex + endpointCount ≤ u64Max := by omega
    simp [hproduct, hindex, hslots, hslot, hcount, hrange]

lemma managementConnectionToken_eq_ok {slotIndex connectionId token : Nat} :
    managementConnectionToken slotIndex connectionId = .ok token ↔
      0 < connectionId ∧ token ≤ u64Max ∧
        token = managementTokenBase +
          ((connectionId - 1) * managementConnectionLimit + slotIndex + 1) := by
  simp only [managementConnectionToken, managementConnectionLimit]
  constructor
  · intro h
    split at h
    · cases h
    · rename_i value hvalue
      simp only [Option.bind_eq_bind, Option.bind_eq_some_iff, checkedMul_eq_some,
        checkedAdd_eq_some, checkedSub_eq_some] at hvalue
      obtain ⟨_, ⟨hid, rfl⟩, _, ⟨-, rfl⟩, _, ⟨-, rfl⟩, _, ⟨-, rfl⟩, hrange, rfl⟩ := hvalue
      cases h
      exact ⟨hid, hrange, rfl⟩
  · rintro ⟨hid, hrange, rfl⟩
    have hslots : (connectionId - 1) * 8 ≤ u64Max := by omega
    have hslot : (connectionId - 1) * 8 + slotIndex ≤ u64Max := by omega
    have hencoded : (connectionId - 1) * 8 + slotIndex < u64Max := by omega
    simp [checkedMul, checkedAdd, checkedSub, Nat.succ_le_of_lt hid, hslots, hslot, hencoded,
      hrange]

namespace EventTarget

/-- The token a source of events is registered under. -/
def token (endpointCount : Nat) : EventTarget → Except ServerError Nat
  | listener endpointIndex => .ok (listenerToken endpointIndex)
  | connection endpointIndex slotIndex connectionId =>
    connectionToken endpointCount endpointIndex slotIndex connectionId
  | managementListener => .ok managementListenerToken
  | managementConnection slotIndex connectionId =>
    managementConnectionToken slotIndex connectionId

/-- A source there can be: its endpoint and its slot are there, and identifiers start at one. -/
def Valid (endpointCount : Nat) : EventTarget → Prop
  | listener endpointIndex => endpointIndex < endpointCount
  | connection endpointIndex slotIndex connectionId =>
    endpointIndex < endpointCount ∧ slotIndex < pdcSlotsPerEndpoint ∧ 0 < connectionId
  | managementListener => True
  | managementConnection slotIndex connectionId =>
    slotIndex < managementConnectionLimit ∧ 0 < connectionId

end EventTarget

lemma eventTarget_connectionToken {endpointCount endpointIndex slotIndex connectionId token : Nat}
    (hindex : endpointIndex < endpointCount) (hslot : slotIndex < pdcSlotsPerEndpoint)
    (hid : 0 < connectionId)
    (h : connectionToken endpointCount endpointIndex slotIndex connectionId = .ok token) :
    eventTarget token endpointCount =
      some (.connection endpointIndex slotIndex connectionId) := by
  obtain ⟨htoken, hrange⟩ := connectionToken_eq_ok.mp h
  unfold pdcSlotsPerEndpoint at htoken hslot
  have hpositive : 0 < endpointCount := Nat.lt_of_le_of_lt (Nat.zero_le _) hindex
  have hencoded : token - endpointCount =
      slotIndex + 2 * (endpointIndex + endpointCount * connectionId) := by
    rw [htoken, Nat.mul_comm endpointCount]
    omega
  have hdigits : (token - endpointCount) / 2 = endpointIndex + endpointCount * connectionId := by
    rw [hencoded, Nat.add_mul_div_left _ _ (by decide), Nat.div_eq_of_lt hslot, Nat.zero_add]
  have hconnection : (token - endpointCount) / 2 / endpointCount = connectionId := by
    rw [hdigits, Nat.add_mul_div_left _ _ hpositive, Nat.div_eq_of_lt hindex, Nat.zero_add]
  have hendpoint : (token - endpointCount) / 2 % endpointCount = endpointIndex := by
    rw [hdigits, Nat.add_mul_mod_self_left, Nat.mod_eq_of_lt hindex]
  have hslot' : (token - endpointCount) % 2 = slotIndex := by
    rw [hencoded, Nat.add_mul_mod_self_left, Nat.mod_eq_of_lt hslot]
  have hlistener : token ≠ managementListenerToken := Nat.ne_of_lt hrange
  unfold eventTarget pdcSlotsPerEndpoint
  rw [if_neg hlistener, if_neg (Nat.lt_asymm hrange), if_neg (by omega), if_neg hpositive.ne']
  simp only [hconnection, hendpoint, hslot', if_pos hid.ne']

lemma eventTarget_managementConnectionToken {endpointCount slotIndex connectionId token : Nat}
    (hslot : slotIndex < managementConnectionLimit)
    (h : managementConnectionToken slotIndex connectionId = .ok token) :
    eventTarget token endpointCount = some (.managementConnection slotIndex connectionId) := by
  obtain ⟨hid, -, htoken⟩ := managementConnectionToken_eq_ok.mp h
  unfold managementConnectionLimit at htoken hslot
  have hencoded : token - (managementTokenBase + 1) = slotIndex + 8 * (connectionId - 1) := by
    omega
  have hconnection : (token - (managementTokenBase + 1)) / 8 + 1 = connectionId := by
    rw [hencoded]
    omega
  have hslot' : (token - (managementTokenBase + 1)) % 8 = slotIndex := by
    rw [hencoded]
    omega
  have hlistener : token ≠ managementListenerToken := by
    rw [htoken]
    exact (Nat.lt_add_of_pos_right (Nat.succ_pos _)).ne'
  unfold eventTarget managementConnectionLimit
  rw [if_neg hlistener, if_pos (by omega)]
  simp only [hconnection, hslot']

/-- A token leads back to its source. A `Vec` holds less than `MANAGEMENT_TOKEN_BASE` endpoints. -/
theorem eventTarget_token {endpointCount token : Nat} (fits : endpointCount < managementTokenBase)
    {target : EventTarget} (valid : target.Valid endpointCount)
    (h : target.token endpointCount = .ok token) : eventTarget token endpointCount = some target := by
  cases target with
  | listener endpointIndex =>
    obtain rfl : endpointIndex = token := Except.ok.inj h
    have hrange : endpointIndex < managementTokenBase := Nat.lt_trans valid fits
    unfold eventTarget
    rw [if_neg (show endpointIndex ≠ managementListenerToken from Nat.ne_of_lt hrange),
      if_neg (Nat.lt_asymm hrange), if_pos (show endpointIndex < endpointCount from valid)]
  | connection endpointIndex slotIndex connectionId =>
    exact eventTarget_connectionToken valid.1 valid.2.1 valid.2.2 h
  | managementListener =>
    obtain rfl : managementListenerToken = token := Except.ok.inj h
    rfl
  | managementConnection slotIndex connectionId =>
    exact eventTarget_managementConnectionToken valid.1 h

end PmuSimulator
