import Mathlib
import PmuSimulator.Config.Compiled
import PmuSimulator.Management.Parse
import PmuSimulator.Server.Endpoint

/-!
# The fleet record

Management reports a fleet compactly: what all endpoints share, the values of the first endpoint,
and the prefix its name has before its ordinal. Names are taken from the encodings the endpoints
were compiled with, and every step that expects a well-formed one panics otherwise.
-/

namespace PmuSimulator

structure ManagementFleetState where
  pdcName : String
  pmuNamePrefix : String
  wireVersion : UInt8
  reportingRateHz : UInt16
  nominalFrequencyHz : UInt16
  firstStreamId : UInt16
  firstPmuId : UInt16
  firstPort : UInt16
  deriving DecidableEq, Repr

/-! ### Names -/

/-- `expect`. -/
def expect {α : Type} (value : Option α) (message : String) : Except Failure α :=
  match value with
  | some a => .ok a
  | none => .error (.panic message)

/-- `str::from_utf8`. -/
def fromUtf8 (bytes : List UInt8) : Option String := String.fromUTF8? ⟨bytes.toArray⟩

/-- `split_at`, which expects to cut between two characters. -/
def splitAt (text : String) (mid : Nat) : Option (String × String) :=
  match fromUtf8 ((utf8Bytes text).take mid), fromUtf8 ((utf8Bytes text).drop mid) with
  | some front, some back => some (front, back)
  | _, _ => none

/-- `trim_end_matches`. -/
def trimEndMatches (text : String) (c : Char) : String :=
  String.ofList (text.toList.rdropWhile (· == c))

def managementIndexedName (encoded : List UInt8) : Except Failure String :=
  match encoded with
  | [] => .error (.panic "V3 descriptor requires an indexed name")
  | length :: value =>
    if value.length < length.toNat then
      .error (.panic "range end index out of range for slice")
    else
      expect (fromUtf8 (value.take length.toNat)) "V3 names are validated UTF-8"

def managementPdcName (descriptor : EndpointDescriptor) : Except Failure String :=
  if descriptor.pdcName.isEmpty then .ok "" else managementIndexedName descriptor.pdcName

def managementPmuName (descriptor : EndpointDescriptor) : Except Failure String :=
  match descriptor.wireVersion with
  | .v2 => do
    let metadata ← expect descriptor.v2 "V2 descriptor requires V2 metadata"
    let stationName ← expect (fromUtf8 metadata.stationName)
      "V2 station name is validated printable ASCII"
    return trimEndMatches stationName ' '
  | .v3 => managementIndexedName descriptor.pmuName

def managementPmuNameParts (descriptor : EndpointDescriptor) :
    Except Failure (String × String) := do
  let name ← managementPmuName descriptor
  let mid ← expect (checkedSub name.utf8ByteSize 3)
    "compiled PMU names must end in a three-digit ordinal"
  let parts ← expect (splitAt name mid) "failed to slice string"
  if (utf8Bytes parts.2).all isAsciiDigitByte then return parts
  else .error (.panic "compiled PMU names must end in a three-digit ordinal")

def managementPmuNamePrefix (descriptor : EndpointDescriptor) : Except Failure String := do
  let parts ← managementPmuNameParts descriptor
  return parts.1

def managementFleetState (endpoints : List Endpoint) : Except Failure ManagementFleetState := do
  let first ← expect endpoints.head? "management state requires at least one endpoint"
  let descriptor := first.descriptor
  return {
    pdcName := ← managementPdcName descriptor
    pmuNamePrefix := ← managementPmuNamePrefix descriptor
    wireVersion := descriptor.wireVersion.protocolVersion
    reportingRateHz := descriptor.dataRateHz
    nominalFrequencyHz := descriptor.nominalFrequencyHz
    firstStreamId := descriptor.streamId
    firstPmuId := descriptor.pmuId
    firstPort := descriptor.port }

/-! ### Bytes of text -/

lemma utf8Bytes_length (text : String) : (utf8Bytes text).length = text.utf8ByteSize := rfl

lemma utf8Bytes_ofList (l : List Char) :
    utf8Bytes (String.ofList l) = l.flatMap String.utf8EncodeChar := by
  rw [utf8Bytes, String.toByteArray_ofList]
  simp [List.utf8Encode]

lemma utf8Bytes_append (s t : String) : utf8Bytes (s ++ t) = utf8Bytes s ++ utf8Bytes t := by
  simp [utf8Bytes]

@[simp] lemma fromUtf8_utf8Bytes (text : String) : fromUtf8 (utf8Bytes text) = some text := by
  have hbytes : (⟨(utf8Bytes text).toArray⟩ : ByteArray) = text.toByteArray := by
    simp [utf8Bytes]
  rw [fromUtf8, hbytes]
  simp [String.fromUTF8?, text.isValidUTF8]
  rfl

/-- ASCII characters are one byte each. -/
lemma utf8Bytes_ascii {l : List Char} (h : ∀ c ∈ l, c.toNat < 128) :
    utf8Bytes (String.ofList l) = l.map fun c => c.toNat.toUInt8 := by
  rw [utf8Bytes_ofList]
  induction l with
  | nil => rfl
  | cons c l ih =>
    have hsize : c.utf8Size = 1 := by
      rw [Char.utf8Size_eq_one_iff, UInt32.le_iff_toNat_le]
      exact Nat.le_of_lt_succ (h c (by simp))
    rw [List.flatMap_cons, ih fun d hd => h d (by simp [hd]),
      String.utf8EncodeChar_eq_singleton hsize]
    rfl

/-! ### Ordinals -/

lemma zeroPadded_toList (n : Nat) :
    (zeroPadded n).toList = (Nat.toDigits 10 n).leftpad 3 '0' := by
  rw [zeroPadded, String.toList_ofList]
  congr 1
  exact Nat.toList_repr

lemma zeroPadded_length {n : Nat} (h : n < 1000) : (zeroPadded n).toList.length = 3 := by
  have hdigits : (Nat.toDigits 10 n).length ≤ 3 :=
    (Nat.length_toDigits_le_iff (by decide) (by decide)).mpr h
  rw [zeroPadded_toList, List.length_leftpad]
  exact Nat.max_eq_left hdigits

lemma zeroPadded_isDigit {n : Nat} {c : Char} (h : c ∈ (zeroPadded n).toList) :
    c.isDigit = true := by
  rw [zeroPadded_toList, List.leftpad, List.mem_append] at h
  rcases h with hzero | hdigit
  · rw [List.eq_of_mem_replicate hzero]
    rfl
  · exact Nat.isDigit_of_mem_toDigits (by decide) (by decide) hdigit

lemma toNat_of_isDigit {c : Char} (h : c.isDigit = true) : 48 ≤ c.toNat ∧ c.toNat ≤ 57 := by
  simp only [Char.isDigit, Bool.and_eq_true, decide_eq_true_eq] at h
  exact ⟨UInt32.le_iff_toNat_le.mp h.1, UInt32.le_iff_toNat_le.mp h.2⟩

lemma utf8Bytes_zeroPadded (n : Nat) :
    utf8Bytes (zeroPadded n) = (zeroPadded n).toList.map fun c => c.toNat.toUInt8 := by
  rw [← utf8Bytes_ascii, String.ofList_toList]
  intro c hc
  exact (toNat_of_isDigit (zeroPadded_isDigit hc)).2.trans_lt (by decide)

lemma zeroPadded_byteSize {n : Nat} (h : n < 1000) : (zeroPadded n).utf8ByteSize = 3 := by
  rw [← utf8Bytes_length, utf8Bytes_zeroPadded, List.length_map, zeroPadded_length h]

lemma zeroPadded_digits (n : Nat) : (utf8Bytes (zeroPadded n)).all isAsciiDigitByte = true := by
  rw [utf8Bytes_zeroPadded, List.all_map, List.all_eq_true]
  intro c hc
  obtain ⟨hlower, hupper⟩ := toNat_of_isDigit (zeroPadded_isDigit hc)
  simp only [Function.comp, isAsciiDigitByte, Bool.and_eq_true, decide_eq_true_eq,
    UInt8.le_iff_toNat_le]
  have hbyte : c.toNat.toUInt8.toNat = c.toNat := UInt8.toNat_ofNat_of_lt (hupper.trans_lt (by decide))
  rw [hbyte]
  exact ⟨hlower, hupper⟩

/-! ### Compiled names -/

/-- The name an endpoint was compiled with: behind its length in V3, without its padding in V2. -/
def EndpointDescriptor.CompiledName (e : EndpointDescriptor) (name : String) : Prop :=
  match e.wireVersion with
  | .v2 => ∃ metadata, e.v2 = some metadata ∧
      metadata.stationName =
        utf8Bytes name ++ List.replicate (v2NameFieldBytes - name.utf8ByteSize) 0x20 ∧
      name.utf8ByteSize ≤ v2NameFieldBytes ∧ name.toList.getLast? ≠ some ' '
  | .v3 => e.pmuName = UInt8.ofNat name.utf8ByteSize :: utf8Bytes name ∧ name.utf8ByteSize ≤ 255

/-- A name that ends in an ordinal does not end in a space. -/
lemma pmuNameSource_getLast {pmuNamePrefix : String} {ordinal : Nat} (h : ordinal < 1000) :
    (pmuNameSource pmuNamePrefix ordinal).toList.getLast? ≠ some ' ' := by
  intro hlast
  have hne : (zeroPadded ordinal).toList ≠ [] :=
    List.ne_nil_of_length_pos (by rw [zeroPadded_length h]; decide)
  rw [pmuNameSource, String.toList_append, List.getLast?_append_of_ne_nil _ hne] at hlast
  have hdigit := zeroPadded_isDigit (List.mem_of_getLast? hlast)
  revert hdigit
  decide

lemma encodedName_ok {value field : String} {encoded : List UInt8}
    (h : encodedName value field = .ok encoded) :
    encoded = UInt8.ofNat value.utf8ByteSize :: utf8Bytes value ∧ value.utf8ByteSize ≤ 255 := by
  unfold encodedName at h
  split_ifs at h with hsize hcontrol
  simp only [Bool.or_eq_true, decide_eq_true_eq, not_or, Nat.not_lt] at hsize
  exact ⟨(Except.ok.inj h).symm, hsize.2⟩

lemma v2FixedAscii_ok {value field : String} {encoded : List UInt8}
    (h : v2FixedAscii value field = .ok encoded) :
    encoded = utf8Bytes value ++ List.replicate (v2NameFieldBytes - value.utf8ByteSize) 0x20 ∧
      value.utf8ByteSize ≤ v2NameFieldBytes := by
  unfold v2FixedAscii at h
  split_ifs at h with hsize
  simp only [Bool.or_eq_true, decide_eq_true_eq, not_or, Nat.not_lt] at hsize
  exact ⟨(Except.ok.inj h).symm, hsize.1.2⟩

section Compiled

variable {F : Type} [Add F] [Div F] [LT F] [LE F] [DecidableLT F] [DecidableLE F]
  [OfScientific F] [Numeric F]

lemma validateLimits_ok {limits : RawLimits} {u : Unit} (h : validateLimits limits = .ok u) :
    limits.maxLogicalPmus ≤ maxLogicalPmus ∧ 18 ≤ limits.maxCommandFrameBytes ∧
      limits.maxCommandFrameBytes ≤ maxCommandFrameBytes := by
  obtain ⟨_, hpmus, h⟩ := bind_eq_ok.mp h
  obtain ⟨_, -, h⟩ := bind_eq_ok.mp h
  obtain ⟨_, hframe, -⟩ := bind_eq_ok.mp h
  exact ⟨(ensure_eq_ok.mp hpmus).2, ensure_eq_ok.mp hframe⟩

variable [Mul F] {single : F → Float32} {profile : Profile F} {compiled : CompiledProfile}
  {wireVersion : WireVersion} {tables : ChannelTables} {e : EndpointDescriptor}

lemma Profile.Compiles.count_le
    (h : profile.Compiles single compiled wireVersion tables) : profile.fleet.count ≤ 150 :=
  h.fleet.bounded.trans (validateLimits_ok h.limits).1

/-- Every endpoint was compiled with the prefix of the fleet and its own ordinal. -/
lemma Profile.Compiles.compiledName
    (h : profile.Compiles single compiled wireVersion tables) (he : e ∈ compiled.endpoints) :
    ∃ index < profile.fleet.count, e.CompiledFrom single profile wireVersion tables index ∧
      e.CompiledName (pmuNameSource profile.fleet.pmuNamePrefix (index + 1)) := by
  obtain ⟨index, hindex, hfrom⟩ := h.mem_endpoints he
  refine ⟨index, hindex, hfrom, ?_⟩
  have hcount := h.count_le
  have hchannels := h.channels
  simp only [EndpointDescriptor.CompiledName, hfrom.wireVersion]
  cases wireVersion with
  | v2 =>
    obtain ⟨channelNames, -, hchannels⟩ := bind_eq_ok.mp hchannels
    obtain ⟨phunits, -, hchannels⟩ := bind_eq_ok.mp hchannels
    obtain rfl := Except.ok.inj hchannels
    cases hfrom.named with
    | v2 encoded metadata pmuName channels =>
      obtain ⟨hbytes, hsize⟩ := v2FixedAscii_ok encoded
      exact ⟨_, metadata, hbytes, hsize, pmuNameSource_getLast (by omega)⟩
  | v3 =>
    obtain ⟨channelNames, -, hchannels⟩ := bind_eq_ok.mp hchannels
    obtain rfl := Except.ok.inj hchannels
    cases hfrom.named with
    | v3 encoded metadata channels => exact encodedName_ok encoded

end Compiled

/-! ### Names read back -/

lemma rdropWhile_append_replicate {l : List Char} {c : Char} (h : l.getLast? ≠ some c) (n : Nat) :
    (l ++ List.replicate n c).rdropWhile (· == c) = l := by
  induction n with
  | zero =>
    rw [List.replicate_zero, List.append_nil, List.rdropWhile_eq_self_iff]
    intro hne hlast
    refine h ?_
    rw [List.getLast?_eq_getLast_of_ne_nil hne, beq_iff_eq.mp hlast]
  | succ n ih =>
    rw [List.replicate_succ', ← List.append_assoc, List.rdropWhile_concat_pos _ _ _ (by simp), ih]

lemma managementIndexedName_ok {name : String} (h : name.utf8ByteSize ≤ 255) :
    managementIndexedName (UInt8.ofNat name.utf8ByteSize :: utf8Bytes name) = .ok name := by
  have hlength : (UInt8.ofNat name.utf8ByteSize).toNat = (utf8Bytes name).length := by
    rw [UInt8.toNat_ofNat', utf8Bytes_length]
    exact Nat.mod_eq_of_lt (Nat.lt_of_le_of_lt h (by decide))
  simp only [managementIndexedName, hlength, lt_irrefl, if_false, List.take_length,
    fromUtf8_utf8Bytes, expect]

lemma managementPmuName_ok {e : EndpointDescriptor} {name : String} (h : e.CompiledName name) :
    managementPmuName e = .ok name := by
  unfold EndpointDescriptor.CompiledName at h
  unfold managementPmuName
  cases hversion : e.wireVersion with
  | v2 =>
    rw [hversion] at h
    obtain ⟨metadata, hmetadata, hstation, -, hlast⟩ := h
    generalize v2NameFieldBytes - name.utf8ByteSize = padding at hstation
    have hspaces : utf8Bytes (String.ofList (List.replicate padding ' ')) =
        List.replicate padding 0x20 := by
      rw [utf8Bytes_ascii fun c hc => List.eq_of_mem_replicate hc ▸ by decide]
      simp
    have hdecoded : fromUtf8 metadata.stationName =
        some (name ++ String.ofList (List.replicate padding ' ')) := by
      rw [hstation, ← hspaces, ← utf8Bytes_append, fromUtf8_utf8Bytes]
    have htrimmed : trimEndMatches (name ++ String.ofList (List.replicate padding ' ')) ' ' =
        name := by
      rw [trimEndMatches, String.toList_append, String.toList_ofList,
        rdropWhile_append_replicate hlast, String.ofList_toList]
    simp only [hmetadata, expect, ok_bind, hdecoded, htrimmed]
    rfl
  | v3 =>
    rw [hversion] at h
    obtain ⟨hname, hsize⟩ := h
    change managementIndexedName e.pmuName = .ok name
    rw [hname, managementIndexedName_ok hsize]

/-- A compiled name splits into the prefix of the fleet and the ordinal of the endpoint. -/
lemma managementPmuNameParts_ok {e : EndpointDescriptor} {pmuNamePrefix : String} {ordinal : Nat}
    (hordinal : ordinal < 1000) (h : e.CompiledName (pmuNameSource pmuNamePrefix ordinal)) :
    managementPmuNameParts e = .ok (pmuNamePrefix, zeroPadded ordinal) := by
  have hsize := zeroPadded_byteSize hordinal
  have hbytes : (pmuNameSource pmuNamePrefix ordinal).utf8ByteSize =
      (utf8Bytes pmuNamePrefix).length + 3 := by
    rw [pmuNameSource, String.utf8ByteSize_append, hsize, utf8Bytes_length]
  have hsplit : splitAt (pmuNameSource pmuNamePrefix ordinal) (utf8Bytes pmuNamePrefix).length =
      some (pmuNamePrefix, zeroPadded ordinal) := by
    rw [splitAt, pmuNameSource, utf8Bytes_append, List.take_left, List.drop_left,
      fromUtf8_utf8Bytes, fromUtf8_utf8Bytes]
  have hmid : checkedSub (pmuNameSource pmuNamePrefix ordinal).utf8ByteSize 3 =
      some (utf8Bytes pmuNamePrefix).length := by
    rw [checkedSub_eq_some, hbytes]
    exact ⟨Nat.le_add_left _ _, (Nat.add_sub_cancel _ _).symm⟩
  simp only [managementPmuNameParts, managementPmuName_ok h, ok_bind, hmid, expect, hsplit,
    zeroPadded_digits, if_true]
  rfl

end PmuSimulator
