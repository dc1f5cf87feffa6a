import Mathlib.Data.List.Nodup
import Mathlib.Tactic.SplitIfs
import NodeLink.Link.Binding
import NodeLink.Proofs.Link.Frame
/-!
# What can be bound can be sent

A link is bound with a list of identifiers only if each of them can be sent and none is
listed twice.  Otherwise the first one that stands in the way is reported, and only a list
without such a one lets the key be looked at.
-/

namespace NodeLink.Link

open NodeLink.Text

/-- An identifier has a size that is allowed in a frame. -/
def IsSendable (protocol : String) : Prop :=
  1 ≤ protocol.utf8ByteSize ∧ protocol.utf8ByteSize ≤ 255

/-- Why an identifier cannot follow those that are registered. -/
inductive Hinders (registered : List String) (protocol : String) : ProtocolFlaw → Prop
  | badLength (hsize : ¬ IsSendable protocol) : Hinders registered protocol (.badLength protocol)
  | repeated (hsize : IsSendable protocol) (hmem : protocol ∈ registered) :
      Hinders registered protocol (.repeated protocol)

/-- An identifier of a list cannot follow those before it. -/
def FlawAt (registered protocols : List String) (index : Nat) (flaw : ProtocolFlaw) : Prop :=
  ∃ protocol, protocols[index]? = some protocol ∧
    Hinders (registered ++ protocols.take index) protocol flaw

def IsFirstFlaw (registered protocols : List String) (flaw : ProtocolFlaw) : Prop :=
  ∃ index, FlawAt registered protocols index flaw ∧
    ∀ earlier < index, ∀ other, ¬ FlawAt registered protocols earlier other

/-! ## One identifier after the other -/

section

variable {registered protocols rest : List String} {protocol : String} {flaw : ProtocolFlaw}

theorem not_isSendable_iff : ¬ IsSendable protocol ↔
    Utf8.byteCount protocol = 0 ∨ maxProtocolSize < Utf8.byteCount protocol := by
  rw [Utf8.byteCount_eq, maxProtocolSize, IsSendable]
  omega

theorem register_cons_of_hinders (hflaw : Hinders registered protocol flaw) :
    register registered (protocol :: rest) = .error flaw := by
  cases hflaw with
  | badLength hsize => simp only [register, if_pos (not_isSendable_iff.mp hsize)]
  | repeated hsize hmem =>
      have hgood := mt not_isSendable_iff.mpr (not_not.mpr hsize)
      simp only [register, if_neg hgood, if_pos hmem]

theorem isSendable_of_free (hfree : ∀ flaw, ¬ Hinders registered protocol flaw) :
    IsSendable protocol := by
  by_contra hbad
  exact hfree _ (.badLength hbad)

theorem not_mem_of_free (hfree : ∀ flaw, ¬ Hinders registered protocol flaw) :
    protocol ∉ registered :=
  fun hmem => hfree _ (.repeated (isSendable_of_free hfree) hmem)

theorem register_cons_of_free (hfree : ∀ flaw, ¬ Hinders registered protocol flaw) :
    register registered (protocol :: rest) = register (registered ++ [protocol]) rest := by
  have hgood := mt not_isSendable_iff.mpr (not_not.mpr (isSendable_of_free hfree))
  simp only [register, if_neg hgood, if_neg (not_mem_of_free hfree)]

theorem flawAt_zero : FlawAt registered (protocol :: rest) 0 flaw ↔
    Hinders registered protocol flaw := by
  simp [FlawAt]

theorem flawAt_succ (index : Nat) : FlawAt registered (protocol :: rest) (index + 1) flaw ↔
    FlawAt (registered ++ [protocol]) rest index flaw := by
  simp [FlawAt]

theorem Hinders.unique {other : ProtocolFlaw} (hflaw : Hinders registered protocol flaw)
    (hother : Hinders registered protocol other) : flaw = other := by
  cases hflaw with
  | badLength hsize =>
      cases hother with
      | badLength => rfl
      | repeated hsendable => exact absurd hsendable hsize
  | repeated hsendable _ =>
      cases hother with
      | badLength hsize => exact absurd hsendable hsize
      | repeated => rfl

theorem isFirstFlaw_cons_of_hinders (hflaw : Hinders registered protocol flaw)
    (other : ProtocolFlaw) :
    IsFirstFlaw registered (protocol :: rest) other ↔ flaw = other := by
  constructor
  · rintro ⟨index, hat, hfirst⟩
    cases index with
    | zero => exact hflaw.unique (flawAt_zero.mp hat)
    | succ index => exact absurd (flawAt_zero.mpr hflaw) (hfirst 0 (Nat.succ_pos index) flaw)
  · rintro rfl
    exact ⟨0, flawAt_zero.mpr hflaw, fun _ hearlier => absurd hearlier (Nat.not_lt_zero _)⟩

theorem isFirstFlaw_cons_of_free (hfree : ∀ flaw, ¬ Hinders registered protocol flaw) :
    IsFirstFlaw registered (protocol :: rest) flaw ↔
      IsFirstFlaw (registered ++ [protocol]) rest flaw := by
  constructor
  · rintro ⟨index, hat, hfirst⟩
    cases index with
    | zero => exact absurd (flawAt_zero.mp hat) (hfree flaw)
    | succ index =>
        refine ⟨index, (flawAt_succ index).mp hat, fun earlier hearlier other hother => ?_⟩
        exact hfirst (earlier + 1) (Nat.succ_lt_succ hearlier) other
          ((flawAt_succ earlier).mpr hother)
  · rintro ⟨index, hat, hfirst⟩
    refine ⟨index + 1, (flawAt_succ index).mpr hat, fun earlier hearlier other hother => ?_⟩
    cases earlier with
    | zero => exact hfree other (flawAt_zero.mp hother)
    | succ earlier =>
        exact hfirst earlier (Nat.lt_of_succ_lt_succ hearlier) other
          ((flawAt_succ earlier).mp hother)

/-! ## Whole lists -/

theorem register_eq_error_iff :
    register registered protocols = .error flaw ↔ IsFirstFlaw registered protocols flaw := by
  induction protocols generalizing registered with
  | nil => simp [register, IsFirstFlaw, FlawAt]
  | cons protocol rest ih =>
      by_cases hfree : ∀ flaw, ¬ Hinders registered protocol flaw
      · rw [register_cons_of_free hfree, isFirstFlaw_cons_of_free hfree, ih]
      · obtain ⟨found, hfound⟩ := not_forall_not.mp hfree
        rw [register_cons_of_hinders hfound, isFirstFlaw_cons_of_hinders hfound,
          Except.error.injEq]

/-- A list is registered as it is, or not at all. -/
theorem register_eq_ok_iff {done : List String} (hnodup : registered.Nodup) :
    register registered protocols = .ok done ↔
      done = registered ++ protocols ∧ (∀ protocol ∈ protocols, IsSendable protocol) ∧
        (registered ++ protocols).Nodup := by
  induction protocols generalizing registered with
  | nil => simp [register, hnodup, eq_comm]
  | cons protocol rest ih =>
      by_cases hfree : ∀ flaw, ¬ Hinders registered protocol flaw
      · have hmem := not_mem_of_free hfree
        have hlonger : (registered ++ [protocol]).Nodup := by
          rw [← List.concat_eq_append]
          exact hnodup.concat hmem
        rw [register_cons_of_free hfree, ih hlonger, List.append_assoc, List.singleton_append,
          List.forall_mem_cons]
        simp only [isSendable_of_free hfree, true_and]
      · obtain ⟨flaw, hflaw⟩ := not_forall_not.mp hfree
        rw [register_cons_of_hinders hflaw]
        refine iff_of_false (fun herror => by cases herror) ?_
        rintro ⟨-, hsizes, hwhole⟩
        cases hflaw with
        | badLength hsize => exact hsize (hsizes protocol List.mem_cons_self)
        | repeated _ hmem =>
            exact List.disjoint_of_nodup_append hwhole hmem List.mem_cons_self

end

theorem checkProtocols_eq (protocols : List String) :
    checkProtocols protocols =
      if protocols = [] then .error (.invalidProtocol .noneRegistered)
      else (register [] protocols).mapError .invalidProtocol := by
  cases protocols <;> rfl

theorem checkProtocols_eq_ok_iff {protocols done : List String} :
    checkProtocols protocols = .ok done ↔
      done = protocols ∧ protocols ≠ [] ∧ (∀ protocol ∈ protocols, IsSendable protocol) ∧
        protocols.Nodup := by
  rw [checkProtocols_eq]
  split_ifs with hnone
  · simp [hnone]
  · have hregister : register [] protocols = .ok done ↔ _ := register_eq_ok_iff List.nodup_nil
    rw [List.nil_append] at hregister
    cases hresult : register [] protocols with
    | error flaw => simpa [hresult, hnone, Except.mapError] using hregister
    | ok found => simpa [hresult, hnone, Except.mapError] using hregister

theorem checkProtocols_eq_error_iff {protocols : List String} {error : Error} :
    checkProtocols protocols = .error error ↔
      protocols = [] ∧ error = .invalidProtocol .noneRegistered ∨
        ∃ flaw, IsFirstFlaw [] protocols flaw ∧ error = .invalidProtocol flaw := by
  rw [checkProtocols_eq]
  simp only [← register_eq_error_iff]
  split_ifs with hnone
  · simp [hnone, register, eq_comm]
  · cases hresult : register [] protocols with
    | error flaw => simp [hnone, Except.mapError, eq_comm]
    | ok found => simp [hnone, Except.mapError]

/-! ## Errors -/

theorem message_badLength (protocol : String) :
    (Error.invalidProtocol (.badLength protocol)).message =
      "invalid protocol identifier: `" ++ protocol ++ "` must be 1..=255 bytes" := by
  have hhead : "invalid protocol identifier: " ++ "`" = "invalid protocol identifier: `" := by rfl
  have htail : "` must be 1..=" ++ toString maxProtocolSize ++ " bytes" =
      "` must be 1..=255 bytes" := by rfl
  calc
    _ = "invalid protocol identifier: " ++
          ("`" ++ protocol ++ "` must be 1..=" ++ toString maxProtocolSize ++ " bytes") := rfl
    _ = "invalid protocol identifier: " ++ "`" ++ protocol ++
          ("` must be 1..=" ++ toString maxProtocolSize ++ " bytes") := by
      simp only [String.append_assoc]
    _ = _ := by rw [hhead, htail]

theorem message_repeated (protocol : String) :
    (Error.invalidProtocol (.repeated protocol)).message =
      "invalid protocol identifier: `" ++ protocol ++ "` registered twice" := by
  have hhead : "invalid protocol identifier: " ++ "`" = "invalid protocol identifier: `" := by rfl
  calc
    _ = "invalid protocol identifier: " ++ ("`" ++ protocol ++ "` registered twice") := rfl
    _ = "invalid protocol identifier: " ++ "`" ++ protocol ++ "` registered twice" := by
      simp only [String.append_assoc]
    _ = _ := by rw [hhead]

/-- A key is looked at only after the identifiers. -/
theorem prepare_eq_of_bad_key {key : List UInt8} (hkey : key.length ≠ 32)
    (protocols : List String) :
    Terms.prepare ⟨some key, protocols⟩ =
      match checkProtocols protocols with
      | .error error => .error error
      | .ok _ => .error (.invalidKey key.length) := by
  have halpn : alpnOf (some key) = .error (.invalidKey key.length) := by
    simp [alpnOf, checkKey, keySize, hkey]
  simp only [Terms.prepare, halpn]
  cases checkProtocols protocols <;> rfl

/-! ## The whole of the checks -/

/-- Identifiers are registered just if there are any, each has a size that is allowed in a frame
and none is listed twice; then all of them are, and each can be sent with any body.  Otherwise the
error says that there are none, or quotes the first one that is too short, too long or listed
before.  A key of another size than 32 is an error of its own only if there is no such one. -/
theorem bound_protocols_can_be_sent (protocols : List String) :
    (∀ registered, checkProtocols protocols = .ok registered ↔
      registered = protocols ∧ protocols ≠ [] ∧
        (∀ protocol ∈ protocols, 1 ≤ protocol.utf8ByteSize ∧ protocol.utf8ByteSize ≤ 255) ∧
        protocols.Nodup) ∧
      (∀ registered, checkProtocols protocols = .ok registered →
        ∀ protocol ∈ registered, ∀ body, ∃ bytes, Frame.encode ⟨protocol, body⟩ = .ok bytes) ∧
      (∀ error, checkProtocols protocols = .error error ↔
        protocols = [] ∧ error = .invalidProtocol .noneRegistered ∨
          ∃ flaw, IsFirstFlaw [] protocols flaw ∧ error = .invalidProtocol flaw) ∧
      (∀ protocol,
        (Error.invalidProtocol (.badLength protocol)).message =
            "invalid protocol identifier: `" ++ protocol ++ "` must be 1..=255 bytes" ∧
          (Error.invalidProtocol (.repeated protocol)).message =
            "invalid protocol identifier: `" ++ protocol ++ "` registered twice") ∧
      ∀ key : List UInt8, key.length ≠ 32 →
        Terms.prepare ⟨some key, protocols⟩ =
          match checkProtocols protocols with
          | .error error => .error error
          | .ok _ => .error (.invalidKey key.length) := by
  refine ⟨fun registered => checkProtocols_eq_ok_iff, ?_, fun error => checkProtocols_eq_error_iff,
    fun protocol => ⟨message_badLength protocol, message_repeated protocol⟩,
    fun key hkey => prepare_eq_of_bad_key hkey protocols⟩
  intro registered hcheck protocol hmem body
  obtain ⟨rfl, -, hsizes, -⟩ := checkProtocols_eq_ok_iff.mp hcheck
  exact ⟨_, Frame.encode_eq_ok_iff.mpr ⟨hsizes protocol hmem, rfl⟩⟩

/-- A protocol of two bytes can be bound and sent, but not with a short key; where it is listed
again, neither the empty one behind it nor the key is looked at. -/
theorem two_bytes_are_bound_once :
    checkProtocols ["é"] = .ok ["é"] ∧ "é" ∈ ["é"] ∧
      (∃ bytes, Frame.encode ⟨"é", [7]⟩ = .ok bytes) ∧ [7].length ≠ 32 ∧
      Terms.prepare ⟨some [7], ["é"]⟩ = .error (.invalidKey 1) ∧
      Terms.prepare ⟨some [7], ["é", "b", "é", ""]⟩ =
        .error (.invalidProtocol (.repeated "é")) := by
  have hbound : checkProtocols ["é"] = .ok ["é"] := by rfl
  have hrepeated : checkProtocols ["é", "b", "é", ""] =
      .error (.invalidProtocol (.repeated "é")) := by rfl
  have hkey : [7].length ≠ 32 := by decide
  obtain ⟨-, hsent, -, -, hbind⟩ := bound_protocols_can_be_sent ["é"]
  obtain ⟨-, -, -, -, hbindTwice⟩ := bound_protocols_can_be_sent ["é", "b", "é", ""]
  refine ⟨hbound, List.mem_singleton_self _, hsent _ hbound _ (List.mem_singleton_self _) [7], hkey,
    ?_, ?_⟩
  · rw [hbind [7] hkey, hbound]
    rfl
  · rw [hbindTwice [7] hkey, hrepeated]

end NodeLink.Link
