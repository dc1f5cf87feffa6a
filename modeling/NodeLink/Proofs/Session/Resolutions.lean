import NodeLink.Proofs.Session.Loss
/-!
# Who resolves on a link

The entries that are resolved on a link are those of the connect that has bound it, and then
those of the task that refreshes discovery on it.  Nothing else that happens adds to them, so
a link on which no task was started keeps what the connect has resolved for good.
-/

namespace NodeLink.Session

open NodeLink.Rehearsal (Network LinkId)

/-! ## Entries on a record -/

def entryOf? : Rehearsal.Call → Option String
  | .resolve entry => some entry
  | _ => none

/-- The entries that were resolved on a link, in order. -/
def entriesOn (record : Rehearsal.Link) : List String :=
  record.calls.filterMap entryOf?

theorem entriesOn_append (record : Rehearsal.Link) (calls : List Rehearsal.Call) :
    entriesOn { record with calls := record.calls ++ calls } =
      entriesOn record ++ calls.filterMap entryOf? :=
  List.filterMap_append

theorem filterMap_entryOf?_resolve (entries : List String) :
    (entries.map Rehearsal.Call.resolve).filterMap entryOf? = entries := by
  rw [List.filterMap_map]
  exact List.filterMap_some

theorem entriesOn_round (record : Rehearsal.Link) (entries : List String) :
    entriesOn { record with calls := record.calls ++ entries.map .resolve } =
      entriesOn record ++ entries := by
  rw [entriesOn_append, filterMap_entryOf?_resolve]

/-- Nothing was resolved on a link, which is still there. -/
def KeepsEntries (link : LinkId) (network later : Network) : Prop :=
  ∀ record, network.link? link = some record →
    ∃ next, later.link? link = some next ∧ entriesOn next = entriesOn record

namespace KeepsEntries

variable {link other : LinkId} {network later last : Network}

theorem refl (link : LinkId) (network : Network) : KeepsEntries link network network :=
  fun record hrecord => ⟨record, hrecord, rfl⟩

theorem trans (hfirst : KeepsEntries link network later)
    (hsecond : KeepsEntries link later last) : KeepsEntries link network last := by
  intro record hrecord
  obtain ⟨next, hnext, hsame⟩ := hfirst record hrecord
  obtain ⟨final, hfinal, hkept⟩ := hsecond next hnext
  exact ⟨final, hfinal, hkept.trans hsame⟩

theorem of_agreesOff (hagrees : network.AgreesOff other later) (hother : link ≠ other) :
    KeepsEntries link network later :=
  fun record hrecord => ⟨record, (hagrees.elsewhere link hother).trans hrecord, rfl⟩

/-- What happens on one link need only be looked at there. -/
theorem of_self (hagrees : network.AgreesOff other later)
    (hself : KeepsEntries other network later) : KeepsEntries link network later := by
  by_cases hsame : link = other
  · exact hsame ▸ hself
  · exact of_agreesOff hagrees hsame

end KeepsEntries

section

variable (link other : LinkId) (network : Network)

theorem keepsEntries_modify {change : Rehearsal.Link → Rehearsal.Link}
    (hchange : ∀ record, entriesOn (change record) = entriesOn record) :
    KeepsEntries link network (network.modify other change) := by
  apply KeepsEntries.of_self (network.agreesOff_modify other change)
  intro record hrecord
  refine ⟨change record, ?_, hchange record⟩
  rw [Network.link?_modify_self, hrecord, Option.map_some]

theorem keepsEntries_record {call : Rehearsal.Call} (hcall : entryOf? call = none) :
    KeepsEntries link network (network.record other call) := by
  apply keepsEntries_modify
  intro record
  show entriesOn { record with calls := record.calls ++ [call] } = entriesOn record
  rw [entriesOn_append, List.filterMap_cons_none hcall, List.filterMap_nil, List.append_nil]

theorem keepsEntries_request (protocol : String) (payload : List UInt8) :
    KeepsEntries link network (network.request other protocol payload).1 := by
  apply KeepsEntries.of_self (network.agreesOff_request other protocol payload)
  intro record hrecord
  obtain ⟨lost, hlater⟩ := Network.link?_request_self hrecord protocol payload
  refine ⟨_, hlater, ?_⟩
  exact (entriesOn_append record [.request protocol payload]).trans (List.append_nil _)

theorem keepsEntries_release (id? : Option LinkId) :
    KeepsEntries link network (network.release id?) := by
  cases id? with
  | none => exact .refl link network
  | some id =>
      show KeepsEntries link network (network.close id)
      unfold Network.close
      split
      next =>
        apply keepsEntries_modify
        intro record
        exact (entriesOn_append record [.close]).trans (List.append_nil _)
      next => exact .refl link network

theorem keepsEntries_cue (cue : Rehearsal.Cue) :
    KeepsEntries link network (network.cue cue) := by
  intro record hrecord
  obtain ⟨lost, hlater⟩ := Network.exists_link?_cue cue hrecord
  exact ⟨_, hlater, rfl⟩

/-- A link that is bound and entries that are resolved on it are none of the others' business. -/
theorem keepsEntries_bind (binds : List Link.Terms) (bound : Rehearsal.Link)
    (entries : List String) :
    KeepsEntries link network
      (({ network with binds, links := network.links ++ [bound] } : Network).resolveEach
        network.links.length entries) := by
  intro record hrecord
  have hlt : link < network.links.length := (List.getElem?_eq_some_iff.mp hrecord).1
  refine ⟨record, ?_, rfl⟩
  rw [(Network.agreesOff_resolveEach _ _ entries).elsewhere link (Nat.ne_of_lt hlt)]
  exact (List.getElem?_append_left hlt).trans hrecord

end

/-! ## What adds entries -/

section

variable {session later : Session} {id : Nat} {call : Call} {link : LinkId}

/-- A call resolves entries on no link but the one that it binds by that. -/
theorem Turn.keepsEntries (hturn : Turn session id call later) (link : LinkId) :
    KeepsEntries link session.network later.network := by
  cases hturn with
  | overtaken | refused | left | connected | fell | ended | shutDown => exact .refl link _
  | cleared | failed => exact keepsEntries_release link _ _
  | hindered _ _ _ _ binds =>
      exact keepsEntries_release link { session.network with binds } _
  | bound _ _ _ _ binds => exact keepsEntries_bind link session.network binds _ _
  | dialed => exact keepsEntries_record link _ _ rfl
  | @signedIn profile dial =>
      let dialed := session.network.modify dial.link fun record =>
        { record with dialed := true, lost := false }
      have hdialed : KeepsEntries link session.network dialed :=
        keepsEntries_modify link dial.link session.network fun _ => rfl
      exact hdialed.trans (keepsEntries_request link dial.link dialed _ _)

/-- A deed resolves entries on a link only if a task that goes on does so. -/
theorem Deed.keepsEntries (hdeed : session.Deed later)
    (hfree : ∀ task ∈ session.tasks, task.live = true → task.link ≠ link) :
    KeepsEntries link session.network later.network := by
  cases hdeed with
  | turned _ _ hturn => exact hturn.keepsEntries link
  | sent => exact keepsEntries_request link _ _ _ _
  | resolved htask hlive =>
      exact .of_agreesOff (Network.agreesOff_resolveEach _ _ _)
        (hfree _ (List.mem_of_getElem? htask) hlive).symm
  | cued cue => exact keepsEntries_cue link _ cue
  | issued | lost | waited | enrolled => exact .refl link _

/-! ## Links without a task -/

/-- No task goes on on a link, and no connect is about to start one. -/
structure Untended (session : Session) (link : LinkId) : Prop where
  lt : link < session.network.links.length
  settled : session.holdings.link = some link → session.phase ≠ .connecting
  free : ∀ task ∈ session.tasks, task.live = true → task.link ≠ link

theorem free_halted {tasks : List Task} (hfree : ∀ task ∈ tasks, task.live = true →
    task.link ≠ link) (id? : Option TaskId) :
    ∀ task ∈ halted tasks id?, task.live = true → task.link ≠ link := by
  intro task hmem hlive
  obtain ⟨id, hid⟩ := List.mem_iff_getElem?.mp hmem
  exact hfree task (List.mem_of_getElem? (mem_halted hid hlive).1) hlive

theorem free_rescheduled {tasks : List Task} (hfree : ∀ task ∈ tasks, task.live = true →
    task.link ≠ link) (id : Nat) (now : Instant) :
    ∀ task ∈ tasks.modify id (·.rescheduled now), task.live = true → task.link ≠ link := by
  intro task hmem hlive
  obtain ⟨other, hother⟩ := List.mem_iff_getElem?.mp hmem
  obtain ⟨former, hformer, rfl⟩ := exists_of_getElem?_modify hother
  have hformerFree := hfree former (List.mem_of_getElem? hformer)
  by_cases hself : id = other
  · rw [if_pos hself] at hlive ⊢
    exact hformerFree hlive
  · rw [if_neg hself] at hlive ⊢
    exact hformerFree hlive

theorem Untended.afterTurn (huntended : session.Untended link) (hsound : session.Sound)
    (hcall : session.calls[id]? = some call) (hholder : session.holder = some id)
    (hturn : Turn session id call later) : later.Untended link := by
  have hfree := huntended.free
  have hfits := hsound.fits_call hcall hholder
  refine ⟨?_, ?_, ?_⟩
  · rcases size_touches hsound hcall hholder hturn.touches with hsize | ⟨hsize, -⟩
    · exact hsize ▸ huntended.lt
    · exact hsize ▸ Nat.lt_succ_of_lt huntended.lt
  · intro hheld
    rcases hturn.link_cases hsound hcall hholder with hnone | hnew | ⟨hsame, hphase⟩
    · simp [hnone] at hheld
    · rw [hnew, Option.some.injEq] at hheld
      exact absurd huntended.lt (Nat.not_lt.mpr (Nat.le_of_eq hheld))
    · have hsettled := huntended.settled (hsame ▸ hheld)
      rcases hphase with hkept | hconnecting
      · rwa [hkept]
      · exact absurd hconnecting hsettled
  · cases hturn with
    | overtaken | refused | left | bound | dialed | signedIn | fell | ended | shutDown =>
        exact hfree
    | cleared | hindered | failed => exact free_halted hfree _
    | @connected profile other hrequest hstage =>
        have hbuilds : Builds session.phase session.holdings other :=
          hfits.builds (by rw [hstage]; rfl)
        intro task hmem hlive
        rcases List.mem_append.mp hmem with hold | hnew
        · exact hfree task hold hlive
        · -- the new task is for the link of a connect that has just come up
          rintro rfl
          simp only [refreshTask?, Option.mem_toList] at hnew
          split at hnew
          next => cases hnew
          next =>
            obtain rfl := Option.some.inj hnew
            exact huntended.settled hbuilds.link_eq hbuilds.phase_eq

theorem Untended.afterDeed (huntended : session.Untended link) (hsound : session.Sound)
    (hdeed : session.Deed later) : later.Untended link := by
  obtain ⟨hlt, hsettled, hfree⟩ := huntended
  cases hdeed with
  | turned hcall hholder hturn =>
      exact Untended.afterTurn ⟨hlt, hsettled, hfree⟩ hsound hcall hholder hturn
  | @sent held hphase hlink service payload =>
      have hsize := (session.network.agreesOff_request held service.protocol payload).size
      exact ⟨hsize ▸ hlt, hsettled, hfree⟩
  | lost =>
      refine ⟨hlt, fun _ => ?_, free_halted hfree _⟩
      rw [phase_moveTo]
      decide
  | @resolved id task htask hlive hdue =>
      have hsize := (session.network.agreesOff_resolveEach task.link task.entries).size
      exact ⟨hsize ▸ hlt, hsettled, free_rescheduled hfree id _⟩
  | cued cue => exact ⟨session.network.size_cue cue ▸ hlt, hsettled, hfree⟩
  | issued | waited | enrolled => exact ⟨hlt, hsettled, hfree⟩

/-- Nothing is resolved on a link any more once there is no task for it. -/
theorem Untended.keepsEntries (huntended : session.Untended link) (hsound : session.Sound)
    (acts : List Act) : KeepsEntries link session.network (session.run acts).network := by
  have hboth : (session.run acts).Untended link ∧
      KeepsEntries link session.network (session.run acts).network := by
    apply deeds_induction (motive := fun later => later.Untended link ∧
      KeepsEntries link session.network later.network) ?_ hsound (session.deeds_run acts)
        ⟨huntended, .refl link _⟩
    rintro former later hformer hdeed ⟨huntended, hkeeps⟩
    exact ⟨huntended.afterDeed hformer hdeed, hkeeps.trans (hdeed.keepsEntries huntended.free)⟩
  exact hboth.2

end

end NodeLink.Session
