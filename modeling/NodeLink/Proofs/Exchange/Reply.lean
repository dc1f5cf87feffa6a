import NodeLink.Exchange.Reply
import NodeLink.Proofs.Json.Canonical
/-!
# The errors that replies signal

A reply signals an error outright or from within its envelope, and then it says
which.  Reading finds just these errors: nothing else about a reply makes reading
it fail, and what does not parse signals nothing.
-/

namespace NodeLink.Exchange

open NodeLink.Json NodeLink.Text

/-- An object signals an error by a text that is not blank, or by the JSON text of any
other value but null and false. -/
inductive Signals : Value → String → Prop
  | text {members : List (String × Value)} {message : String}
      (hmember : ("error", .string message) ∈ members) (hshown : isBlankText message = false) :
      Signals (.object members) message
  | other {members : List (String × Value)} {error : Value} (hmember : ("error", error) ∈ members)
      (hnull : error ≠ .null) (hfalse : error ≠ .bool false)
      (htext : ∀ message, error ≠ .string message) : Signals (.object members) error.text

/-- An object wraps the value of its data, which may be packed as JSON text. -/
inductive Wraps : Value → Value → Prop
  | plain {members : List (String × Value)} {inner : Value} (hmember : ("data", inner) ∈ members)
      (htext : ∀ text, inner ≠ .string text) : Wraps (.object members) inner
  | packed {members : List (String × Value)} {text : String} {inner : Value}
      (hmember : ("data", .string text) ∈ members) (hread : readText text = .ok inner) :
      Wraps (.object members) inner

/-- The error that the answer of a node reports.  What the answer wraps has its say only
if the answer itself signals none. -/
inductive Reports (body : List UInt8) : String → Prop
  | outright {value : Value} {message : String} (hread : readBytes body = .ok value)
      (hsignals : Signals value message) : Reports body message
  | wrapped {value inner : Value} {message : String} (hread : readBytes body = .ok value)
      (hquiet : ∀ other, ¬ Signals value other) (hwraps : Wraps value inner)
      (hsignals : Signals inner message) : Reports body message

/-- What the answer of a node leaves to be read: what it wraps, or the answer itself if it
has no data.  Neither of the two signals an error. -/
inductive Leaves (body : List UInt8) : Value → Prop
  | bare {value : Value} (hread : readBytes body = .ok value)
      (hquiet : ∀ message, ¬ Signals value message) (hdata : value.member? "data" = none) :
      Leaves body value
  | wrapped {value inner : Value} (hread : readBytes body = .ok value)
      (hquiet : ∀ message, ¬ Signals value message) (hwraps : Wraps value inner)
      (hinner : ∀ message, ¬ Signals inner message) : Leaves body inner

/-! ## Values that are read -/

theorem isCanonical_of_map_eq_ok {outcome : Except Fault Value} {value : Value}
    (hread : outcome.map Value.canonical = .ok value) : IsCanonical value := by
  cases outcome with
  | error fault => cases hread
  | ok source => exact ⟨source, (Except.ok.inj hread).symm⟩

theorem isCanonical_of_readBytes {body : List UInt8} {value : Value}
    (hread : readBytes body = .ok value) : IsCanonical value :=
  isCanonical_of_map_eq_ok hread

theorem Wraps.isCanonical {value inner : Value} (hwraps : Wraps value inner)
    (hcanonical : IsCanonical value) : IsCanonical inner := by
  cases hwraps with
  | plain hmember => exact hcanonical.of_members.2 _ hmember
  | packed hmember hread => exact isCanonical_of_map_eq_ok hread

/-! ## Reading errors -/

theorem signalled?_eq_some_iff {value : Value} (hcanonical : IsCanonical value)
    {message : String} : signalled? value = some message ↔ Signals value message := by
  constructor
  · intro hsignalled
    cases value with
    | object members =>
        unfold signalled? at hsignalled
        cases herror : (Value.object members).member? "error" with
        | none => simp [herror] at hsignalled
        | some error =>
            have hmember := hcanonical.member?_eq_some_iff.mp herror
            rw [herror] at hsignalled
            cases error with
            | null => cases hsignalled
            | string text =>
                simp only at hsignalled
                split at hsignalled
                next => cases hsignalled
                next hshown =>
                  obtain rfl := Option.some.inj hsignalled
                  exact .text hmember (Bool.not_eq_true _ ▸ hshown)
            | bool b =>
                cases b with
                | false => cases hsignalled
                | true =>
                    obtain rfl := Option.some.inj hsignalled
                    exact .other hmember (by simp) (by simp) (by simp)
            | number | array | object =>
                obtain rfl := Option.some.inj hsignalled
                exact .other hmember (by simp) (by simp) (by simp)
    | null | bool | number | string | array => cases hsignalled
  · intro hsignals
    cases hsignals with
    | text hmember hshown =>
        simp [signalled?, hcanonical.member?_eq_some_iff.mpr hmember, hshown]
    | other hmember hnull hfalse htext =>
        rename_i members error
        unfold signalled?
        rw [hcanonical.member?_eq_some_iff.mpr hmember]
        cases error with
        | null => exact absurd rfl hnull
        | string text => exact absurd rfl (htext text)
        | bool b =>
            cases b with
            | false => exact absurd rfl hfalse
            | true => rfl
        | number | array | object => rfl

theorem signalled?_eq_none_iff {value : Value} (hcanonical : IsCanonical value) :
    signalled? value = none ↔ ∀ message, ¬ Signals value message := by
  rw [Option.eq_none_iff_forall_ne_some]
  exact forall_congr' fun message => not_congr (signalled?_eq_some_iff hcanonical)

/-- What a value wraps depends on its data only. -/
theorem wraps_iff {members : List (String × Value)} {data inner : Value}
    (hcanonical : IsCanonical (.object members))
    (hdata : (Value.object members).member? "data" = some data) :
    Wraps (.object members) inner ↔
      (∃ text, data = .string text ∧ readText text = .ok inner) ∨
        data = inner ∧ ∀ text, data ≠ .string text := by
  have hmember := hcanonical.member?_eq_some_iff.mp hdata
  have hsame {other : Value} (hother : ("data", other) ∈ members) : data = other :=
    Option.some.inj (hdata.symm.trans (hcanonical.member?_eq_some_iff.mpr hother))
  constructor
  · intro hwraps
    cases hwraps with
    | plain hother htext =>
        obtain rfl := hsame hother
        exact .inr ⟨rfl, htext⟩
    | packed hother hread => exact .inl ⟨_, hsame hother, hread⟩
  · rintro (⟨text, rfl, hread⟩ | ⟨rfl, htext⟩)
    · exact .packed hmember hread
    · exact .plain hmember htext

/-- Unwrapping gives what a value wraps, or the value itself if it has no data. -/
theorem unwrap_eq_some_iff {value inner : Value} (hcanonical : IsCanonical value) :
    unwrap value = some inner ↔
      Wraps value inner ∨ value.member? "data" = none ∧ inner = value := by
  unfold unwrap
  cases hdata : value.member? "data" with
  | none =>
      constructor
      · intro hself
        exact .inr ⟨rfl, (Option.some.inj hself).symm⟩
      · rintro (hwraps | ⟨-, rfl⟩)
        · cases hwraps with
          | plain hmember | packed hmember =>
              simp [hcanonical.member?_eq_some_iff.mpr hmember] at hdata
        · rfl
  | some data =>
      cases value with
      | object members =>
          rw [wraps_iff hcanonical hdata]
          cases data with
          | string text => cases hread : readText text <;> simp [Except.toOption, hread]
          | null | bool | number | array | object => simp
      | null | bool | number | string | array => cases hdata

theorem isCanonical_of_unwrap {value inner : Value} (hcanonical : IsCanonical value)
    (hunwrap : unwrap value = some inner) : IsCanonical inner := by
  rcases (unwrap_eq_some_iff hcanonical).mp hunwrap with hwraps | ⟨-, rfl⟩
  · exact hwraps.isCanonical hcanonical
  · exact hcanonical

/-- An answer without data is what there is to read. -/
theorem interpretValue_bare {value : Value} (hdata : value.member? "data" = none) :
    interpretValue value =
      match signalled? value with
      | some message => .error message
      | none => .ok (some value) := by
  unfold interpretValue unwrap
  rw [hdata]
  cases hsignalled : signalled? value with
  | none => simp [hsignalled]
  | some message => rfl

theorem interpretValue_eq_error_iff {value : Value} (hcanonical : IsCanonical value)
    {message : String} :
    interpretValue value = .error message ↔
      Signals value message ∨
        (∀ other, ¬ Signals value other) ∧ ∃ inner, Wraps value inner ∧ Signals inner message := by
  unfold interpretValue
  cases hown : signalled? value with
  | some own =>
      have hsignals := (signalled?_eq_some_iff hcanonical).mp hown
      have hmine : Signals value message ↔ own = message := by
        rw [← signalled?_eq_some_iff hcanonical, hown, Option.some.injEq]
      simp only [Except.error.injEq, hmine]
      constructor
      · exact .inl
      · rintro (hsame | ⟨hquiet, -⟩)
        · exact hsame
        · exact absurd hsignals (hquiet own)
  | none =>
      have hquiet := (signalled?_eq_none_iff hcanonical).mp hown
      simp only [hquiet, not_false_eq_true, implies_true, true_and, false_or]
      cases hunwrap : unwrap value with
      | none =>
          simp only [reduceCtorEq, false_iff]
          rintro ⟨inner, hwraps, -⟩
          simp [(unwrap_eq_some_iff hcanonical).mpr (.inl hwraps)] at hunwrap
      | some inner =>
          have hinner : IsCanonical inner := isCanonical_of_unwrap hcanonical hunwrap
          have hpacked : (∃ other, Wraps value other ∧ Signals other message) ↔
              Signals inner message := by
            constructor
            · rintro ⟨other, hwraps, hsignals⟩
              have hother := (unwrap_eq_some_iff hcanonical).mpr (.inl hwraps)
              obtain rfl := Option.some.inj (hunwrap.symm.trans hother)
              exact hsignals
            · intro hsignals
              rcases (unwrap_eq_some_iff hcanonical).mp hunwrap with hwraps | ⟨-, rfl⟩
              · exact ⟨inner, hwraps, hsignals⟩
              · exact absurd hsignals (hquiet message)
          simp only [hpacked, ← signalled?_eq_some_iff hinner]
          cases signalled? inner with
          | none => simp
          | some found => simp

/-- Reading an answer fails just with the errors that the answer reports. -/
theorem interpret_eq_error_iff {body : List UInt8} {message : String} :
    interpret body = .error message ↔ Reports body message := by
  unfold interpret
  cases hread : readBytes body with
  | error fault =>
      simp only [reduceCtorEq, false_iff]
      rintro (⟨hother, -⟩ | ⟨hother, -⟩)
      · cases hread.symm.trans hother
      · cases hread.symm.trans hother
  | ok value =>
      have hcanonical := isCanonical_of_readBytes hread
      simp only [interpretValue_eq_error_iff hcanonical]
      constructor
      · rintro (hsignals | ⟨hquiet, inner, hwraps, hsignals⟩)
        · exact .outright hread hsignals
        · exact .wrapped hread hquiet hwraps hsignals
      · intro hreports
        cases hreports with
        | outright hother hsignals =>
            obtain rfl := Except.ok.inj (hread.symm.trans hother)
            exact .inl hsignals
        | wrapped hother hquiet hwraps hsignals =>
            obtain rfl := Except.ok.inj (hread.symm.trans hother)
            exact .inr ⟨hquiet, _, hwraps, hsignals⟩

theorem Leaves.isCanonical {body : List UInt8} {reply : Value} (hleaves : Leaves body reply) :
    IsCanonical reply := by
  cases hleaves with
  | bare hread => exact isCanonical_of_readBytes hread
  | wrapped hread hquiet hwraps => exact hwraps.isCanonical (isCanonical_of_readBytes hread)

/-- Reading an answer finds just what the answer leaves. -/
theorem interpret_eq_ok_some_iff {body : List UInt8} {reply : Value} :
    interpret body = .ok (some reply) ↔ Leaves body reply := by
  constructor
  · intro hinterpret
    unfold interpret at hinterpret
    cases hread : readBytes body with
    | error fault => simp [hread] at hinterpret
    | ok value =>
        have hcanonical := isCanonical_of_readBytes hread
        simp only [hread, interpretValue] at hinterpret
        cases hown : signalled? value with
        | some message => simp [hown] at hinterpret
        | none =>
            have hquiet := (signalled?_eq_none_iff hcanonical).mp hown
            cases hunwrap : unwrap value with
            | none => simp [hown, hunwrap] at hinterpret
            | some inner =>
                have hinner := isCanonical_of_unwrap hcanonical hunwrap
                cases hsignalled : signalled? inner with
                | some message => simp [hown, hunwrap, hsignalled] at hinterpret
                | none =>
                    simp only [hown, hunwrap, hsignalled, Except.ok.injEq,
                      Option.some.injEq] at hinterpret
                    subst hinterpret
                    rcases (unwrap_eq_some_iff hcanonical).mp hunwrap with hwraps | ⟨hdata, rfl⟩
                    · exact .wrapped hread hquiet hwraps
                        ((signalled?_eq_none_iff hinner).mp hsignalled)
                    · exact .bare hread hquiet hdata
  · intro hleaves
    cases hleaves with
    | bare hread hquiet hdata =>
        have hown := (signalled?_eq_none_iff (isCanonical_of_readBytes hread)).mpr hquiet
        simp only [interpret, hread, interpretValue_bare hdata, hown]
    | wrapped hread hquiet hwraps hinner =>
        have hcanonical := isCanonical_of_readBytes hread
        have hown := (signalled?_eq_none_iff hcanonical).mpr hquiet
        have hunwrap := (unwrap_eq_some_iff hcanonical).mpr (.inl hwraps)
        have hsignalled := (signalled?_eq_none_iff (hwraps.isCanonical hcanonical)).mpr hinner
        simp only [interpret, hread, interpretValue, hown, hunwrap, hsignalled]

end NodeLink.Exchange
