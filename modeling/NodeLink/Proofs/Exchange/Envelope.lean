import NodeLink.Proofs.Exchange.Calls
import NodeLink.Proofs.Json.Nesting
/-!
# Envelopes make no difference

An answer may come bare, wrapped in an envelope as a value, or wrapped as a text that
quotes it.  All three are taken for the same answer: putting a text into an envelope
is undone by taking its data out, and quoting it is undone by reading it twice.
-/

namespace NodeLink.Exchange

open NodeLink.Json NodeLink.Text

def envelope (data : String) : String :=
  "\x7b\"data\":" ++ data ++ "\x7d"

theorem toList_envelope (data : String) :
    (envelope data).toList = '\x7b' :: quoted "data".toList ++ ':' :: data.toList ++ ['\x7d'] := by
  have hjoined : (envelope data).toList =
      "\x7b\"data\":".toList ++ data.toList ++ "\x7d".toList := by
    rw [envelope, String.toList_append, String.toList_append]
  exact hjoined

/-! ## What an envelope holds -/

theorem signalled?_data (data : Value) : signalled? (.object [("data", data)]) = none := rfl

/-- An envelope that unwraps to a value is interpreted as the value. -/
theorem interpretValue_data {data value : Value}
    (hunwrap : unwrap (.object [("data", data)]) = some value)
    (hdata : value.member? "data" = none) :
    interpretValue (.object [("data", data)]) = interpretValue value := by
  rw [interpretValue_bare hdata]
  cases hsignalled : signalled? value with
  | none => simp only [interpretValue, signalled?_data, hunwrap, hsignalled]
  | some message => simp only [interpretValue, signalled?_data, hunwrap, hsignalled]

theorem unwrap_value {value : Value} (hstring : ∀ text, value ≠ .string text) :
    unwrap (.object [("data", value)]) = some value := by
  have hfound : (Value.object [("data", value)]).member? "data" = some value := rfl
  unfold unwrap
  rw [hfound]
  cases value with
  | string text => exact absurd rfl (hstring text)
  | null | bool | number | array | object => rfl

theorem unwrap_text {text : String} {value : Value} (hread : readText text = .ok value) :
    unwrap (.object [("data", .string text)]) = some value := by
  have hfound : (Value.object [("data", .string text)]).member? "data" = some (.string text) := rfl
  unfold unwrap
  rw [hfound]
  simp [hread, Except.toOption]

/-! ## Bodies -/

theorem interpret_bytesOf {text : String} {value : Value} (hread : readText text = .ok value) :
    interpret (Utf8.bytesOf text) = interpretValue value := by
  have hbytes : readBytes (Utf8.bytesOf text) = .ok value := (readBytes_encode text.toList).trans hread
  rw [interpret, hbytes]

theorem interpret_envelope {text : String} {data value : Value} {levels : Nat}
    (hread : readText text = .ok data) (hnests : NestsWithin levels text)
    (hlevels : levels < greatestDepth) (hunwrap : unwrap (.object [("data", data)]) = some value)
    (hdata : value.member? "data" = none) :
    interpret (Utf8.bytesOf (envelope text)) = interpretValue value := by
  have henvelope : readText (envelope text) = .ok (.object [("data", data)]) := by
    rw [readText, toList_envelope]
    exact read_member "data" hread hnests hlevels
  rw [interpret_bytesOf henvelope, interpretValue_data hunwrap hdata]

/-- The text of a string stands on no level of its own. -/
theorem nestsWithin_of_string {literal text : String}
    (hliteral : readText literal = .ok (.string text)) : NestsWithin 0 literal := by
  unfold readText Json.read at hliteral
  cases hsource : Reader.readKnowing (fun _ => true) literal.toList with
  | error fault => simp [hsource, Except.map] at hliteral
  | ok source =>
      have hcanonical : source.canonical = .string text := by
        simpa [hsource, Except.map] using hliteral
      refine ⟨source, hsource, ?_⟩
      cases source with
      | string found => simp [Value.depth]
      | null | bool | number | array | object => simp [Value.canonical] at hcanonical

section

variable {bare enveloped : Session} {inquiry : Inquiry} {text : String} {value : Value}

/-- A text that is neither a string nor an envelope itself may be answered bare, in an
envelope, or quoted in an envelope, by any literal that stands for it: each call comes
out the same. -/
theorem envelope_is_transparent (hread : readText text = .ok value) (hnests : NestsWithin 126 text)
    (hstring : ∀ other, value ≠ .string other) (hdata : value.member? "data" = none)
    (hbare : IsAnswered bare inquiry (Utf8.bytesOf text))
    (henveloped : IsAnswered enveloped inquiry (Utf8.bytesOf (envelope text))) :
    (ask enveloped inquiry).2 = (ask bare inquiry).2 ∧
      readText (Value.string text).text = .ok (.string text) ∧
      ∀ literal packed, readText literal = .ok (.string text) →
        IsAnswered packed inquiry (Utf8.bytesOf (envelope literal)) →
        (ask packed inquiry).2 = (ask bare inquiry).2 := by
  have htext : interpret (Utf8.bytesOf text) = interpretValue value := interpret_bytesOf hread
  refine ⟨?_, ?_, ?_⟩
  · have hinner : interpret (Utf8.bytesOf (envelope text)) = interpretValue value :=
      interpret_envelope hread hnests (by decide) (unwrap_value hstring) hdata
    rw [henveloped.ask_eq, hbare.ask_eq, hinner, htext]
  · exact readText_text (.string text : (Value.string text).Exact 0) (by decide)
  · intro literal packed hliteral hpacked
    have hinner : interpret (Utf8.bytesOf (envelope literal)) = interpretValue value :=
      interpret_envelope hliteral (nestsWithin_of_string hliteral) (by decide) (unwrap_text hread)
        hdata
    rw [hpacked.ask_eq, hbare.ask_eq, hinner, htext]

end

/-- A feed of one item that is written as an array, with quotes and a line break in its
text: each time the same item is returned. -/
theorem wrapped_feed_is_read :
    let value := Value.array [.array [.string "\"quoted\"\n"]]
    let text := value.text
    let answered (body : String) := sampleSession.cue
      (.reply Service.timeline.protocol (.body (Utf8.bytesOf body)))
    readText text = .ok value ∧
      (ask (answered text) (.feed 20)).2 = .ok (.items .feed [⟨"\"quoted\"\n", "", "", 0⟩]) ∧
      (ask (answered (envelope text)) (.feed 20)).2 = (ask (answered text) (.feed 20)).2 ∧
      (ask (answered (envelope (Value.string text).text)) (.feed 20)).2 =
        (ask (answered text) (.feed 20)).2 := by
  intro value text answered
  have hexact : value.Exact 2 := by
    apply Value.Exact.array
    intro row hrow
    obtain rfl := List.mem_singleton.mp hrow
    apply Value.Exact.array
    intro part hpart
    obtain rfl := List.mem_singleton.mp hpart
    exact .string _
  have hread : readText text = .ok value := readText_text hexact (by decide)
  have hsource : Reader.readKnowing (fun _ => true) text.toList = .ok value := by
    have htext : text.toList = value.write := String.toList_ofList
    rw [htext]
    exact Reader.readKnowing_write_exact hexact (by decide) fun _ _ => rfl
  have hnests : NestsWithin 126 text := ⟨value, hsource, by decide⟩
  have hstring : ∀ other, value ≠ .string other := by simp [value]
  have hanswered (body : String) : IsAnswered (answered body) (.feed 20) (Utf8.bytesOf body) :=
    isAnswered_sampleSession (.feed 20) _
  have hitems : (ask (answered text) (.feed 20)).2 =
      .ok (.items .feed [⟨"\"quoted\"\n", "", "", 0⟩]) := by decide +kernel
  obtain ⟨henveloped, hliteral, hpacked⟩ := envelope_is_transparent hread hnests hstring rfl
    (hanswered text) (hanswered (envelope text))
  exact ⟨hread, hitems, henveloped, hpacked _ _ hliteral (hanswered _)⟩

end NodeLink.Exchange
