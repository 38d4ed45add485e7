import NemoClaw.Inference.GatewayRouteCompatibility
import NemoClaw.Js.StringifyJson

/- Which gateway the commands for a sandbox act on, from its row of the registry.

The two fields of a row are any JSON values. A valid port decides alone; a valid name
decides where there is no valid port; the default gateway is for rows that have neither
field. Whatever else is in a row is an error.

What is proved:
  1. `resolveGatewayPortFromName_resolveGatewayName`: the name of a port leads back to it.
  2. `resolveSandboxGatewayName_canonical`: a name that is resolved is that of its port.

Correspondence (onboard/gateway-binding.ts ↔ Lean): `resolveGatewayName`,
`resolveGatewayPortFromName` and the two checks are in `Inference.GatewayRouteCompatibility`;
`persistedPort` and `persistedName` are the conditions of `resolveSandboxGatewayName`.
-/
namespace NemoClaw.GatewayBinding

open Js GatewayRoute List

/-- A row; `none` is a field that is missing. -/
structure SandboxGatewayBinding where
  gatewayName : Option Json
  gatewayPort : Option Json

/-- The field, if it is neither missing nor `null`. -/
def present : Option Json → Option Json
  | none | some .null => none
  | some value => some value

def persistedPort : Option Json → Option ℕ
  | some (.num port) => if isValidPersistedGatewayPort port then some port.num.toNat else none
  | _ => none

def persistedName : Option Json → Option String
  | some (.str name) => if isValidPersistedGatewayName name then some name else none
  | _ => none

variable (numberText : ℚ → String)

def invalidBinding (sandbox : SandboxGatewayBinding) : String :=
  let detail :=
    ((present sandbox.gatewayPort).map fun port => "gatewayPort=" ++ stringify numberText port).toList ++
    ((present sandbox.gatewayName).map fun name => "gatewayName=" ++ stringify numberText name).toList
  "Invalid persisted sandbox gateway binding (" ++ ", ".intercalate detail ++ ")"

def resolveSandboxGatewayName (sandbox : Option SandboxGatewayBinding) : Except String String :=
  let row := sandbox.getD ⟨none, none⟩
  match persistedPort row.gatewayPort with
  | some port => .ok (resolveGatewayName port)
  | none =>
    match persistedName row.gatewayName with
    | some name => .ok name
    | none =>
      if present row.gatewayPort = none ∧ present row.gatewayName = none then .ok baseGatewayName
      else .error (invalidBinding numberText row)

lemma gatewaySuffix_append (text : String) :
    gatewaySuffix (baseGatewayName ++ "-" ++ text) = some text.toList := by
  have htext : (baseGatewayName ++ "-" ++ text).toList =
      (baseGatewayName ++ "-").toList ++ text.toList := String.toList_append
  unfold gatewaySuffix
  rw [htext, if_pos ( isPrefixOf_iff_prefix.mpr (prefix_append _ _)), drop_left]

lemma natOfDigits_repr (n : ℕ) : natOfDigits (Nat.repr n).toList = n := by
  rw [Nat.toList_repr]; exact Nat.ofDigitChars_ten_toDigits

lemma isDigit_repr (n : ℕ) : (Nat.repr n).toList.all isDigit := by
  refine all_eq_true.mpr fun c hc => ?_
  have hdigit : (48 ≤ c.val && c.val ≤ 57) := isDigit_of_mem_repr hc
  exact hdigit

theorem resolveGatewayPortFromName_resolveGatewayName {port : ℕ}
    (h : isValidPersistedGatewayPort port) :
    resolveGatewayPortFromName (resolveGatewayName port) = some port := by
  by_cases hdefault : port = defaultGatewayPort
  · rw [hdefault]; rfl
  have hname : resolveGatewayName port = baseGatewayName ++ "-" ++ Nat.repr port := if_neg hdefault
  have hne : baseGatewayName ++ "-" ++ Nat.repr port ≠ baseGatewayName := by
    intro heq
    have hlength := congrArg (·.toList.length) heq
    simp only [String.toList_append, length_append] at hlength
    have hdash : "-".toList.length = 1 := rfl; omega
  unfold resolveGatewayPortFromName
  rw [hname, if_neg hne, gatewaySuffix_append]
  have hdigits : (Nat.repr port).toList ≠ [] := by
    rw [Nat.toList_repr]; exact Nat.toDigits_ne_nil
  simp only [Option.bind_some, natOfDigits_repr]
  exact if_pos ⟨hdigits, isDigit_repr port, h, hname⟩

lemma resolveGatewayName_of_port {name : String} {port : ℕ}
    (h : resolveGatewayPortFromName name = some port) : resolveGatewayName port = name := by
  unfold resolveGatewayPortFromName at h
  split at h
  · next hbase =>
    cases h; exact hbase.symm
  · obtain ⟨digits, -, hport⟩ := Option.bind_eq_some_iff.mp h
    dsimp only at hport
    split at hport
    · next hvalid =>
      cases hport; exact hvalid.2.2.2
    · cases hport

lemma persistedPort_valid {value : Option Json} {port : ℕ} (h : persistedPort value = some port) :
    isValidPersistedGatewayPort port := by
  unfold persistedPort at h
  split at h
  · next q =>
    split at h
    · next hvalid =>
      cases h
      have hint : ((q.num.toNat : ℕ) : ℚ) = q := by
        simp only [isValidPersistedGatewayPort, Bool.and_eq_true, decide_eq_true_eq] at hvalid
        have hnonneg : 0 ≤ q.num := Rat.num_nonneg.mpr (zero_le_one.trans hvalid.1.2)
        rw [← Int.cast_natCast, Int.toNat_of_nonneg hnonneg]
        exact Rat.coe_int_num_of_den_eq_one hvalid.1.1
      rw [hint]; exact hvalid
    · cases h
  · cases h

lemma persistedName_valid {value : Option Json} {name : String}
    (h : persistedName value = some name) : isValidPersistedGatewayName name := by
  unfold persistedName at h
  split at h
  · split at h
    · next hvalid =>
      cases h; exact hvalid
    · cases h
  · cases h

theorem resolveSandboxGatewayName_canonical {sandbox : Option SandboxGatewayBinding} {name : String}
    (h : resolveSandboxGatewayName numberText sandbox = .ok name) :
    ∃ port, resolveGatewayPortFromName name = some port ∧ resolveGatewayName port = name := by
  unfold resolveSandboxGatewayName at h
  dsimp only at h
  split at h
  · next port hport =>
    cases h
    exact ⟨port, resolveGatewayPortFromName_resolveGatewayName (persistedPort_valid hport), rfl⟩
  · split at h
    · next hname =>
      cases h
      have hsome := (Bool.and_eq_true_iff.mp (persistedName_valid hname)).2
      obtain ⟨port, hport⟩ := Option.isSome_iff_exists.mp hsome
      exact ⟨port, hport, resolveGatewayName_of_port hport⟩
    · split at h
      · cases h; exact ⟨defaultGatewayPort, rfl, rfl⟩
      · cases h

/-- A valid port decides alone; without a port a valid name does, and the default gateway is
for rows without either; a row of which no field that is present is valid is an error. -/
theorem resolveSandboxGatewayName_closed (sandbox : Option SandboxGatewayBinding) :
    let row := sandbox.getD ⟨none, none⟩
    (∀ name, resolveSandboxGatewayName numberText sandbox = .ok name →
      ∃ port, resolveGatewayPortFromName name = some port ∧ resolveGatewayName port = name) ∧
    (∀ port, persistedPort row.gatewayPort = some port →
      resolveSandboxGatewayName numberText sandbox = .ok (resolveGatewayName port)) ∧
    (present row.gatewayPort = none → ∀ name,
      resolveSandboxGatewayName numberText sandbox = .ok name ↔
        persistedName row.gatewayName = some name ∨
          present row.gatewayName = none ∧ name = baseGatewayName) ∧
    (present row.gatewayPort ≠ none ∨ present row.gatewayName ≠ none →
      persistedPort row.gatewayPort = none → persistedName row.gatewayName = none →
      resolveSandboxGatewayName numberText sandbox = .error (invalidBinding numberText row)) := by
  intro row
  refine ⟨fun name h => resolveSandboxGatewayName_canonical numberText h, fun port hport => ?_,
    fun hport name => ?_, fun hpresent hport hname => ?_⟩
  · unfold resolveSandboxGatewayName
    dsimp only
    rw [hport]
  · have hnone : persistedPort row.gatewayPort = none := by
      unfold present at hport
      split at hport <;> first | (next h => rw [h]; rfl) | cases hport
    unfold resolveSandboxGatewayName
    dsimp only
    rw [hnone]
    cases hname : persistedName row.gatewayName with
    | some name' =>
      have hpresent : present row.gatewayName ≠ none := by
        intro habsent
        unfold present at habsent
        split at habsent <;> first | (next h => rw [h] at hname; cases hname) | cases habsent
      simp [hpresent]
    | none =>
      by_cases habsent : present row.gatewayName = none
      · rw [if_pos ⟨hport, habsent⟩]; simp [habsent, eq_comm]
      · rw [if_neg fun h => habsent h.2]; simp [habsent]
  · unfold resolveSandboxGatewayName
    dsimp only
    rw [hport, hname]; exact if_neg fun h => hpresent.elim (· h.1) (· h.2)

/-- A name that is not valid does not matter beside a port that is: not every name that is
resolved comes from a row all of whose fields are valid. -/
theorem rogue_name_resolves : ¬∀ sandbox name,
    resolveSandboxGatewayName (fun _ => "") (some sandbox) = .ok name →
      present sandbox.gatewayName = none ∨ persistedName sandbox.gatewayName ≠ none := by
  intro h
  have hrogue := h ⟨some (.str "rogue-gateway"), some (.num 8081)⟩ (resolveGatewayName 8081) rfl
  revert hrogue; decide

end NemoClaw.GatewayBinding
