import NodeLink.Profile.NetworkKey
import NodeLink.Proofs.Text.Base64
/-!
# The texts of network keys

A key may be written in base64 with its padding or without, and blanks may stand
anywhere in it.  These are all the texts that are read as the key: padding that is
there only in part, bits that no byte accounts for and characters of no meaning are
refused, so two keys never share a text.
-/

namespace NodeLink.NetworkKey

open NodeLink.Text

/-- But for blanks, a text is that of a key, with all of its padding or with none. -/
def Spells (text : String) (key : NetworkKey) : Prop :=
  withoutBlanks text = key.text.toList ∨
    withoutBlanks text = Base64.withoutFill key.text.toList

theorem toList_text (key : NetworkKey) : key.text.toList = Base64.encode key.bytes :=
  String.toList_ofList

theorem withoutFill_text (key : NetworkKey) :
    Base64.withoutFill key.text.toList = Base64.encodeBare key.bytes := by
  rw [toList_text, Base64.withoutFill_encode]

theorem Spells.exists_fill {text : String} {key : NetworkKey} (hspells : Spells text key) :
    ∃ count, withoutBlanks text = Base64.encodeBare key.bytes ++ List.replicate count '=' := by
  rcases hspells with hpadded | hbare
  · rw [hpadded, toList_text]
    exact Base64.exists_fill key.bytes
  · rw [hbare, withoutFill_text]
    exact ⟨0, (List.append_nil _).symm⟩

theorem Spells.bare {text : String} {key : NetworkKey} (hspells : Spells text key) :
    Base64.withoutFill (withoutBlanks text) = Base64.encodeBare key.bytes := by
  obtain ⟨count, htext⟩ := hspells.exists_fill
  rw [htext, Base64.withoutFill_encodeBare_append]

theorem Spells.unique {text : String} {key other : NetworkKey} (hkey : Spells text key)
    (hother : Spells text other) : key = other := by
  have hbytes := Base64.encodeBare_inj.mp (hkey.bare.symm.trans hother.bare)
  cases key
  cases other
  exact congrArg NetworkKey.mk hbytes

/-- The two forms are tried one after the other, and the second attempt never takes
what the first one was right to refuse. -/
theorem either_form_eq_some_iff {text : String} {bytes : List UInt8} :
    (Base64.decode (withoutBlanks text)).or (Base64.decodeBare (withoutBlanks text)) =
      some bytes ↔ Spells text ⟨bytes⟩ := by
  rw [Option.or_eq_some_iff, Base64.decode_eq_some_iff, Base64.decodeBare_eq_some_iff, Spells,
    withoutFill_text, toList_text]
  constructor
  · rintro (hpadded | ⟨-, hbare⟩)
    · exact .inl hpadded
    · exact .inr hbare
  · rintro (hpadded | hbare)
    · exact .inl hpadded
    · cases hread : Base64.decode (withoutBlanks text) with
      | none => exact .inr ⟨rfl, hbare⟩
      | some others =>
          have hothers : Spells text ⟨others⟩ :=
            .inl ((Base64.eq_encode_of_decode hread).trans (toList_text _).symm)
          have hspells : Spells text ⟨bytes⟩ := .inr (hbare.trans (withoutFill_text _).symm)
          obtain rfl := NetworkKey.mk.inj (hspells.unique hothers)
          exact .inl (Base64.eq_encode_of_decode hread)

theorem ofText?_eq_some_iff {text : String} {key : NetworkKey} :
    ofText? text = some key ↔ key.bytes ≠ [] ∧ Spells text key := by
  obtain ⟨bytes⟩ := key
  rw [← either_form_eq_some_iff]
  unfold ofText?
  simp only
  split
  next hnone => simp [hnone]
  next hempty => simp [hempty, eq_comm]
  next found hsolid hfound =>
    simp only [hfound, Option.some.injEq, NetworkKey.mk.injEq]
    constructor
    · rintro rfl
      exact ⟨hsolid, rfl⟩
    · exact fun hsome => hsome.2

theorem ofText?_eq_none {text : String} (hnone : ∀ key : NetworkKey, ¬ Spells text key) :
    ofText? text = none :=
  Option.eq_none_iff_forall_ne_some.mpr fun key hread =>
    hnone key (ofText?_eq_some_iff.mp hread).2

/-! ## What spells no key -/

section

variable {text : String} {key read : NetworkKey} {count : Nat}

/-- The digits of a key with another padding than its own spell no key. -/
theorem not_spells_of_padding
    (htext : withoutBlanks text =
      Base64.withoutFill key.text.toList ++ List.replicate count '=')
    (hsome : count ≠ 0) (hother : withoutBlanks text ≠ key.text.toList) : ¬ Spells text read := by
  intro hspells
  rw [withoutFill_text] at htext
  have hbare := hspells.bare
  rw [htext, Base64.withoutFill_encodeBare_append, Base64.encodeBare_inj] at hbare
  have hsame : read.text = key.text := by rw [NetworkKey.text, NetworkKey.text, hbare]
  rcases hspells with hpadded | hnone
  · exact hother (hsame ▸ hpadded)
  · rw [withoutFill_text, htext, hbare] at hnone
    simp [hsome] at hnone

theorem not_spells_of_spare_bits {digits : List Char} {last : Char} {n : Nat}
    (htext : withoutBlanks text = digits ++ [last] ++ List.replicate count '=')
    (hlast : Base64.value? last = some n)
    (hbits : digits.length % 4 = 1 ∧ n % 16 ≠ 0 ∨ digits.length % 4 = 2 ∧ n % 4 ≠ 0) :
    ¬ Spells text read := by
  intro hspells
  have hdigit : (Base64.value? last).isSome = true := by rw [hlast, Option.isSome_some]
  have hbare := hspells.bare
  rw [htext, Base64.withoutFill_append (by simp [hdigit])] at hbare
  obtain ⟨hone, htwo⟩ := Base64.spare_bits_encodeBare hbare.symm hlast
  rcases hbits with ⟨hlength, hspare⟩ | ⟨hlength, hspare⟩
  · exact hspare (hone hlength)
  · exact hspare (htwo hlength)

theorem not_spells_of_foreign {c : Char} (hmem : c ∈ withoutBlanks text)
    (hforeign : Base64.value? c = none) (hfill : c ≠ '=') : ¬ Spells text read := by
  intro hspells
  obtain ⟨count, htext⟩ := hspells.exists_fill
  rw [htext, List.mem_append] at hmem
  rcases hmem with hdigit | hpadding
  · have hvalue := Base64.isDigit_of_mem_encodeBare read.bytes c hdigit
    simp [hforeign] at hvalue
  · exact hfill (List.eq_of_mem_replicate hpadding)

end

/-! ## Exactness -/

/-- A text is read as a key just if it is base64 of the bytes of the key, of which there is
at least one, with all of the padding or with none, and with blanks anywhere.  So no text
is that of two keys, and a text is refused that has some other padding, bits to spare or a
character that is neither a digit nor padding. -/
theorem key_texts_are_exact (text : String) :
    (∀ key : NetworkKey, ofText? text = some key ↔
      key.bytes ≠ [] ∧ (withoutBlanks text = key.text.toList ∨
        withoutBlanks text = key.text.toList.rdropWhile (· = '='))) ∧
      (∀ key other : NetworkKey, Spells text key → Spells text other → key = other) ∧
      (∀ (key : NetworkKey) (count : Nat),
        withoutBlanks text =
          key.text.toList.rdropWhile (· = '=') ++ List.replicate count '=' →
        count ≠ 0 → withoutBlanks text ≠ key.text.toList → ofText? text = none) ∧
      (∀ (digits : List Char) (last : Char) (n count : Nat),
        withoutBlanks text = digits ++ [last] ++ List.replicate count '=' →
        Base64.value? last = some n →
        digits.length % 4 = 1 ∧ n % 16 ≠ 0 ∨ digits.length % 4 = 2 ∧ n % 4 ≠ 0 →
        ofText? text = none) ∧
      ∀ c ∈ withoutBlanks text, Base64.value? c = none → c ≠ '=' → ofText? text = none := by
  refine ⟨fun key => ofText?_eq_some_iff, fun key other => Spells.unique, ?_, ?_, ?_⟩
  · intro key count htext hsome hother
    exact ofText?_eq_none fun read => not_spells_of_padding htext hsome hother
  · intro digits last n count htext hlast hbits
    exact ofText?_eq_none fun read => not_spells_of_spare_bits htext hlast hbits
  · intro c hmem hforeign hfill
    exact ofText?_eq_none fun read => not_spells_of_foreign hmem hforeign hfill

theorem loose_key_is_read :
    let text := "\u2003A Q\tID\nBA "
    let key : NetworkKey := ⟨[1, 2, 3, 4]⟩
    key.text = "AQIDBA==" ∧ withoutBlanks text = key.text.toList.rdropWhile (· = '=') ∧
      ofText? text = some key := by
  intro text key
  have hbare : withoutBlanks text = key.text.toList.rdropWhile (· = '=') := by decide
  exact ⟨by decide, hbare, ((key_texts_are_exact text).1 key).mpr ⟨by decide, .inr hbare⟩⟩

end NodeLink.NetworkKey
