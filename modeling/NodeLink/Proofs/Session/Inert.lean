import NodeLink.Profile.Samples
import NodeLink.Proofs.Session.Grounds
import NodeLink.Proofs.Session.LastCall
/-!
# An overtaken connect is inert

Wherever a newer call finds a connect, in line, between two of its stages or with
its dial or its time just over, nothing is left to the connect but to end with an
error.  It leaves the network alone, does not bring the session up, and says that
it was superseded only if it was overtaken.
-/

namespace NodeLink.Session

open NodeLink.Rehearsal (Network LinkId)

/-- A connect after which a newer call was issued. -/
structure Outdated (session : Session) (id : Nat) (profile : Profile) : Prop where
  connects : ∃ call, session.calls[id]? = some call ∧ call.request = .connect profile
  newer : id + 1 < session.calls.length

section

variable {session later : Session} {id : Nat} {call : Call} {profile : Profile}

theorem result?_congr (hsame : later.calls[id]? = session.calls[id]?) :
    later.result? id = session.result? id := by
  simp only [result?, hsame]

theorem Outdated.isOvertaken (houtdated : session.Outdated id profile)
    (horderly : session.toLine.Orderly) (hcall : session.calls[id]? = some call) :
    session.isOvertaken call = true :=
  (horderly.isOvertaken_iff_newer hcall).mpr houtdated.newer

theorem Outdated.request_eq (houtdated : session.Outdated id profile)
    (hcall : session.calls[id]? = some call) : call.request = .connect profile := by
  obtain ⟨found, hfound, hrequest⟩ := houtdated.connects
  obtain rfl : call = found := Option.some.inj (hcall.symm.trans hfound)
  exact hrequest

/-! ## Turns of an overtaken connect -/

/-- Ends a connect with an error after some announcements. -/
inductive Withdraws (session : Session) (id : Nat) (profile : Profile) : Session → Prop
  | overtaken : Withdraws session id profile (session.finish id (.error .superseded))
  | left : Withdraws session id profile
      ((session.startOver profile).finish id (.error .superseded))
  | fell {error : Error} : Withdraws session id profile
      ((session.moveTo .failed).finish id (.error error))

theorem Turn.withdraws (hturn : Turn session id call later)
    (hrequest : call.request = .connect profile) (hovertaken : session.isOvertaken call = true) :
    Withdraws session id profile later := by
  have hother : session.isOvertaken call ≠ false := by simp [hovertaken]
  cases hturn with
  | overtaken => exact .overtaken
  | left hfound =>
      obtain rfl := Request.connect.inj (hrequest.symm.trans hfound)
      exact .left
  | fell => exact .fell
  | refused _ _ hnewest | hindered _ _ hnewest | bound _ _ hnewest | failed _ hnewest
  | dialed _ _ hnewest | signedIn _ _ hnewest | connected _ _ hnewest =>
      exact absurd hnewest hother
  | cleared hstage hgoes => exact absurd (hgoes profile hrequest).1 hother
  | ended hfound | shutDown hfound => simp [hrequest] at hfound

theorem Withdraws.network_eq (hwithdraws : Withdraws session id profile later) :
    later.network = session.network := by
  cases hwithdraws with
  | overtaken | left | fell => rfl

theorem Withdraws.phase_of_connected (hwithdraws : Withdraws session id profile later)
    (hphase : later.phase = .connected) : session.phase = .connected := by
  cases hwithdraws with
  | overtaken => exact hphase
  | left =>
      have hconnecting := session.phase_startOver profile
      exact absurd (hconnecting.symm.trans hphase) (by simp)
  | fell =>
      have hfailed := session.phase_moveTo .failed
      exact absurd (hfailed.symm.trans hphase) (by simp)

theorem Withdraws.result?_eq (hwithdraws : Withdraws session id profile later)
    (hcall : session.calls[id]? = some call) : ∃ error, later.result? id = some (.error error) := by
  have hended (moved : Session) (hmoved : moved.calls = session.calls) (error : Error) :
      (moved.finish id (.error error)).result? id = some (.error error) := by
    have hnext : (moved.finish id (.error error)).calls[id]? =
        some { call with stage := .done (.error error) } := by
      show (moved.calls.modify id _)[id]? = _
      simp [hmoved, hcall]
    exact result?_of_done hnext rfl
  cases hwithdraws with
  | overtaken => exact ⟨_, hended session rfl _⟩
  | left => exact ⟨_, hended (session.startOver profile) rfl _⟩
  | fell => exact ⟨_, hended (session.moveTo .failed) rfl _⟩

/-! ## Runs behind a newer call -/

theorem Outdated.afterDeed (houtdated : session.Outdated id profile)
    (hdeed : session.Deed later) : later.Outdated id profile := by
  obtain ⟨call, hcall, hrequest⟩ := houtdated.connects
  cases hdeed with
  | issued request =>
      refine ⟨⟨call, Line.getElem?_issue_of_some request hcall, hrequest⟩, ?_⟩
      have hlength := Line.length_issue session.toLine request
      have hnewer := houtdated.newer
      show id + 1 < (session.toLine.issue request).calls.length
      omega
  | turned hheld hholder hturn =>
      obtain ⟨next, hnext, hsame⟩ := hturn.exists_call hcall
      exact ⟨⟨next, hnext, hsame.trans hrequest⟩, hturn.length_eq ▸ houtdated.newer⟩
  | sent | lost | resolved | waited | cued | enrolled =>
      exact ⟨houtdated.connects, houtdated.newer⟩

/-- A connect that was overtaken before it had come up does not come up any more. -/
theorem Outdated.result?_ne_ok (houtdated : session.Outdated id profile)
    (hsound : session.Sound) (hdeed : session.Deed later)
    (hresult : session.result? id ≠ some (.ok ())) : later.result? id ≠ some (.ok ()) := by
  cases hdeed with
  | issued request =>
      obtain ⟨call, hcall, -⟩ := houtdated.connects
      have hsame : (session.issue request).calls[id]? = session.calls[id]? :=
        (Line.getElem?_issue_of_some request hcall).trans hcall.symm
      rwa [result?_congr hsame]
  | turned hcall hholder hturn =>
      rename_i turning call
      by_cases hself : id = turning
      · subst hself
        have hwithdraws := hturn.withdraws (houtdated.request_eq hcall)
          (houtdated.isOvertaken hsound.orderly hcall)
        obtain ⟨error, herror⟩ := hwithdraws.result?_eq hcall
        simp [herror]
      · rwa [result?_congr (hturn.getElem?_of_ne hself)]
  | sent | lost | resolved | waited | cued | enrolled => exact hresult

theorem Outdated.afterDeeds (houtdated : session.Outdated id profile)
    (hdeeds : session.Deeds later) : later.Outdated id profile := by
  induction hdeeds with
  | refl => exact houtdated
  | tail _ hdeed ih => exact ih.afterDeed hdeed

/-! ## Who is superseded -/

theorem newer_of_superseded_turn (hsound : session.Sound) (hattributed : session.Attributed)
    (hcall : session.calls[id]? = some call) (hholder : session.holder = some id)
    (hturn : Turn session id call later) (hresult : later.result? id = some (.error .superseded)) :
    id + 1 < session.calls.length := by
  obtain ⟨next, hnext, hstage⟩ := result?_eq_some hresult
  cases hturn with
  | overtaken _ _ hovertaken | left _ _ hovertaken =>
      exact (hsound.orderly.isOvertaken_iff_newer hcall).mp hovertaken
  | fell hrequest hdropped =>
      rename_i profile error
      obtain rfl := Line.eq_of_modify_self hcall hnext
      have hheld : session.stage = .dropped error := hdropped ▸ Line.stage_eq hholder hcall
      have hother := (hattributed.dropped error hheld).1
      simp at hstage
      exact absurd hstage hother
  | refused | cleared | hindered | bound | failed | dialed | signedIn | connected | ended
  | shutDown =>
      obtain rfl := Line.eq_of_modify_self hcall hnext
      simp at hstage

theorem newer_of_superseded (hsound : session.Sound) (hattributed : session.Attributed)
    (given : Act) (hnone : session.result? id = none)
    (hresult : (session.act given).result? id = some (.error .superseded)) :
    id + 1 < session.calls.length := by
  have hkept (hline : (session.act given).toLine = session.toLine) :
      id + 1 < session.calls.length := by
    have hsame : (session.act given).calls[id]? = session.calls[id]? := by rw [hline]
    rw [result?_congr hsame, hnone] at hresult
    cases hresult
  cases given with
  | issue request =>
      obtain ⟨call, hcall, hstage⟩ := result?_eq_some hresult
      rcases Line.getElem?_issue hcall with hold | ⟨-, rfl⟩
      · rw [result?_of_done hold hstage] at hnone
        cases hnone
      · cases hstage
  | advance turning =>
      rcases session.advance_eq_self_or_turn turning with hrest | ⟨call, hcall, hholder, hturn⟩
      · exact hkept (congrArg (·.toLine) hrest)
      · by_cases hself : id = turning
        · subst hself
          exact newer_of_superseded_turn hsound hattributed hcall hholder hturn hresult
        · rw [act, result?_congr (hturn.getElem?_of_ne hself), hnone] at hresult
          cases hresult
  | send service payload => exact hkept (session.sending service payload).toLine_eq
  | report link => exact hkept (toLine_noteLoss session link)
  | refresh task => exact hkept (session.toLine_runTask task).1
  | wait | cue | listen | unlisten => exact hkept rfl

/-! ## Links with one owner -/

def SoleOwners (calls : List Call) : Prop :=
  ∀ (id other : Nat) call owning link, calls[id]? = some call → calls[other]? = some owning →
    call.link = some link → owning.link = some link → id = other

theorem SoleOwners.of_keepsOwners {calls next : List Call} (hsole : SoleOwners calls)
    (hkeeps : KeepsOwners calls next) : SoleOwners next := by
  intro id other call owning link hcall hother howns hshares
  obtain ⟨former, hformer, hformerOwns, -⟩ := hkeeps id call link hcall howns
  obtain ⟨rival, hrival, hrivalOwns, -⟩ := hkeeps other owning link hother hshares
  exact hsole id other former rival link hformer hrival hformerOwns hrivalOwns

theorem SoleOwners.afterTurn (hsole : SoleOwners session.calls) (hsound : session.Sound)
    (hcall : session.calls[id]? = some call) (hturn : Turn session id call later) :
    SoleOwners later.calls := by
  cases hturn with
  | overtaken | refused | left | connected | fell | ended | shutDown =>
      exact hsole.of_keepsOwners (keepsOwners_finish session.toLine id _)
  | cleared | hindered | failed | dialed | signedIn =>
      exact hsole.of_keepsOwners (keepsOwners_setStage session.toLine id _)
  | bound hrequest hstage hnewest hobstacle binds =>
      have hfresh : ∀ (other : Nat) owning, session.calls[other]? = some owning →
          owning.link ≠ some session.network.links.length := by
        intro other owning hother howns
        exact Nat.lt_irrefl _ (hsound.owned.lt_size other owning _ hother howns)
      intro first second former latter link hfirst hsecond howns hshares
      rcases getElem?_setBound hcall hfirst with ⟨rfl, rfl⟩ | ⟨-, hformer⟩
      · rcases getElem?_setBound hcall hsecond with ⟨rfl, -⟩ | ⟨-, hlatter⟩
        · rfl
        · exact absurd (hshares.trans howns.symm) (hfresh second latter hlatter)
      · rcases getElem?_setBound hcall hsecond with ⟨rfl, rfl⟩ | ⟨-, hlatter⟩
        · exact absurd (howns.trans hshares.symm) (hfresh first former hformer)
        · exact hsole first second former latter link hformer hlatter howns hshares

theorem SoleOwners.afterDeed (hsole : SoleOwners session.calls) (hsound : session.Sound)
    (hdeed : session.Deed later) : SoleOwners later.calls := by
  cases hdeed with
  | issued request => exact hsole.of_keepsOwners (keepsOwners_issue session.toLine request)
  | turned hcall hholder hturn => exact hsole.afterTurn hsound hcall hturn
  | sent | lost | resolved | waited | cued | enrolled => exact hsole

theorem soleOwners_run (options : Options) (acts : List Act) :
    SoleOwners ((initial options).run acts).calls := by
  apply run_induction (motive := fun session => SoleOwners session.calls)
  · intro session later hsound hdeed hsole
    exact hsole.afterDeed hsound hdeed
  · intro id other call owning link hcall
    simp [initial, Line.initial] at hcall

/-- An overtaken connect binds no link. -/
theorem Outdated.owned_before {next : Call} {link : LinkId}
    (houtdated : session.Outdated id profile) (hsound : session.Sound)
    (hdeed : session.Deed later) (hnext : later.calls[id]? = some next)
    (howns : next.link = some link) :
    ∃ call, session.calls[id]? = some call ∧ call.link = some link := by
  have hkept (hkeeps : KeepsOwners session.calls later.calls) :
      ∃ call, session.calls[id]? = some call ∧ call.link = some link := by
    obtain ⟨call, hcall, hsame, -⟩ := hkeeps id next link hnext howns
    exact ⟨call, hcall, hsame⟩
  cases hdeed with
  | issued request => exact hkept (keepsOwners_issue session.toLine request)
  | turned hcall hholder hturn =>
      rename_i turning call
      by_cases hself : id = turning
      · subst hself
        have hwithdraws := hturn.withdraws (houtdated.request_eq hcall)
          (houtdated.isOvertaken hsound.orderly hcall)
        cases hwithdraws with
        | overtaken | left | fell => exact hkept (keepsOwners_finish session.toLine id _)
      · exact ⟨next, (hturn.getElem?_of_ne hself).symm.trans hnext, howns⟩
  | sent | lost | resolved | waited | cued | enrolled => exact ⟨next, hnext, howns⟩

/-! ## What is recorded on its link -/

/-- Nothing is recorded on a link any more, but that it is closed. -/
def Silent (former record : Rehearsal.Link) : Prop :=
  record.calls = former.calls ∧ record.closed = former.closed ∨
    former.closed = false ∧ record.closed = true ∧ record.calls = former.calls ++ [.close]

theorem Silent.refl (record : Rehearsal.Link) : Silent record record := .inl ⟨rfl, rfl⟩

theorem Silent.trans {former record last : Rehearsal.Link} (hfirst : Silent former record)
    (hsecond : Silent record last) : Silent former last := by
  rcases hfirst with ⟨hcalls, hclosed⟩ | ⟨hopen, hclosed, hcalls⟩
  · unfold Silent at hsecond ⊢
    rwa [hcalls, hclosed] at hsecond
  · rcases hsecond with ⟨hlast, hstays⟩ | ⟨hopen', -, -⟩
    · exact .inr ⟨hopen, hstays.trans hclosed, hlast.trans hcalls⟩
    · simp [hclosed] at hopen'

theorem silent_release {network : Network} {link : LinkId} {record : Rehearsal.Link}
    {holdings : Holdings} (hopen : HoldsOpen network holdings)
    (hrecord : network.link? link = some record) :
    ∃ next, (network.release holdings.link).link? link = some next ∧ Silent record next := by
  cases hheld : holdings.link with
  | none => exact ⟨record, hrecord, .refl record⟩
  | some held =>
      by_cases hsame : link = held
      · subst hsame
        obtain ⟨found, hfound, hclosed⟩ :=
          Network.isOpen_eq_true_iff.mp (hopen.isOpen hheld)
        obtain rfl : record = found := Option.some.inj (hrecord.symm.trans hfound)
        exact ⟨_, Network.link?_close_self hrecord hclosed, .inr ⟨hclosed, rfl, rfl⟩⟩
      · refine ⟨record, ?_, .refl record⟩
        exact ((network.agreesOff_close held).elsewhere link hsame).trans hrecord

/-- A call that goes on writes on its own link only. -/
theorem silent_touches {turning : Nat} {owner other : Call} {link : LinkId}
    {network : Network} {record : Rehearsal.Link} (hsound : session.Sound)
    (hsole : SoleOwners session.calls) (hcall : session.calls[id]? = some owner)
    (howns : owner.link = some link) (hovertaken : session.isOvertaken owner = true)
    (hother : session.calls[turning]? = some other) (htouches : Touches session other network)
    (hrecord : session.network.link? link = some record) :
    ∃ next, network.link? link = some next ∧ Silent record next := by
  cases htouches with
  | nothing => exact ⟨record, hrecord, .refl record⟩
  | released binds =>
      have hopen : HoldsOpen { session.network with binds } session.holdings := hsound.holdsOpen
      exact silent_release hopen hrecord
  | worked hworks hnewest hagrees =>
      rename_i worked
      have hne : link ≠ worked := by
        intro hsame
        subst hsame
        obtain rfl := hsole id turning owner other link hcall hother howns
          (hsound.owned.working turning other link hother hworks)
        obtain rfl : owner = other := Option.some.inj (hcall.symm.trans hother)
        simp [hovertaken] at hnewest
      exact ⟨record, (hagrees.elsewhere link hne).trans hrecord, .refl record⟩
  | bound hstage binds entries =>
      let grown : Network := { session.network with
        binds
        links := session.network.links ++ [Rehearsal.Link.bound Service.protocols] }
      have hlt := hsound.owned.lt_size id owner link hcall howns
      have hkept : grown.link? link = session.network.link? link :=
        List.getElem?_append_left hlt
      have hresolved := (grown.agreesOff_resolveEach session.network.links.length
        entries).elsewhere link (Nat.ne_of_lt hlt)
      exact ⟨record, (hresolved.trans hkept).trans hrecord, .refl record⟩

theorem silent_deed {owner : Call} {link : LinkId} {record : Rehearsal.Link}
    (hsound : session.Sound) (hattributed : session.Attributed)
    (hsole : SoleOwners session.calls) (hcall : session.calls[id]? = some owner)
    (howns : owner.link = some link) (hovertaken : session.isOvertaken owner = true)
    (hresult : session.result? id ≠ some (.ok ())) (hdeed : session.Deed later)
    (hrecord : session.network.link? link = some record) :
    ∃ next, later.network.link? link = some next ∧ Silent record next := by
  -- the link of a connected session belongs to a connect that came up
  have hother {held : LinkId} (hphase : session.phase = .connected)
      (hheld : session.holdings.link = some held) : link ≠ held := by
    intro hsame
    subst hsame
    obtain ⟨other, owning, howning, hshares, hended⟩ := hattributed.earned link hphase hheld
    obtain rfl := hsole id other owner owning link hcall howning howns hshares
    exact hresult (result?_of_done howning hended)
  cases hdeed with
  | turned hfound hholder hturn =>
      exact silent_touches hsound hsole hcall howns hovertaken hfound hturn.touches hrecord
  | sent hphase hlink service payload =>
      rename_i held
      have hsame := (session.network.agreesOff_request held service.protocol payload).elsewhere
        link (hother hphase hlink)
      exact ⟨record, hsame.trans hrecord, .refl record⟩
  | resolved htask hlive hdue =>
      rename_i turning task
      have hheld := hsound.tends.only turning task htask hlive
      obtain ⟨hphase, found, -, hfound, -, hlink, -⟩ := hsound.tends.live turning hheld
      obtain rfl : task = found := Option.some.inj (htask.symm.trans hfound)
      have hsame := (session.network.agreesOff_resolveEach task.link task.entries).elsewhere link
        (hother hphase hlink)
      exact ⟨record, hsame.trans hrecord, .refl record⟩
  | cued cue =>
      obtain ⟨lost, hlater⟩ := Network.exists_link?_cue cue hrecord
      exact ⟨_, hlater, .inl ⟨rfl, rfl⟩⟩
  | issued | lost | waited | enrolled => exact ⟨record, hrecord, .refl record⟩

/-- What has become of an overtaken connect that had not come up in a former session:
it has not come up since, and its link, if any, is from then and silent. -/
structure Retires (former session : Session) (id : Nat) (profile : Profile) : Prop where
  outdated : session.Outdated id profile
  unreached : session.result? id ≠ some (.ok ())
  silent : ∀ call link, session.calls[id]? = some call → call.link = some link →
    ∃ record next, former.network.link? link = some record ∧
      session.network.link? link = some next ∧ Silent record next

theorem retires_self (houtdated : session.Outdated id profile) (hsound : session.Sound)
    (hresult : session.result? id ≠ some (.ok ())) : session.Retires session id profile := by
  refine ⟨houtdated, hresult, ?_⟩
  intro call link hcall howns
  have hlt := hsound.owned.lt_size id call link hcall howns
  have hrecord : session.network.link? link = some session.network.links[link] :=
    List.getElem?_eq_getElem hlt
  exact ⟨_, _, hrecord, hrecord, .refl _⟩

theorem Retires.afterDeed {former : Session} (hretires : former.Retires session id profile)
    (hsound : session.Sound) (hattributed : session.Attributed)
    (hsole : SoleOwners session.calls) (hdeed : session.Deed later) :
    former.Retires later id profile := by
  obtain ⟨houtdated, hresult, hsilent⟩ := hretires
  refine ⟨houtdated.afterDeed hdeed, houtdated.result?_ne_ok hsound hdeed hresult, ?_⟩
  intro next link hnext howns
  obtain ⟨call, hcall, hsame⟩ := houtdated.owned_before hsound hdeed hnext howns
  obtain ⟨record, middle, hrecord, hmiddle, hbefore⟩ := hsilent call link hcall hsame
  obtain ⟨last, hlast, hstep⟩ := silent_deed hsound hattributed hsole hcall hsame
    (houtdated.isOvertaken hsound.orderly hcall) hresult hdeed hmiddle
  exact ⟨record, last, hrecord, hlast, hbefore.trans hstep⟩

theorem Retires.afterDeeds {former : Session} (hretires : former.Retires session id profile)
    (hsound : session.Sound) (hattributed : session.Attributed)
    (hsole : SoleOwners session.calls) (hdeeds : session.Deeds later) :
    former.Retires later id profile := by
  have hall : former.Retires later id profile ∧ later.Attributed ∧ SoleOwners later.calls := by
    apply deeds_induction (motive := fun later =>
      former.Retires later id profile ∧ later.Attributed ∧ SoleOwners later.calls) ?_ hsound
      hdeeds ⟨hretires, hattributed, hsole⟩
    rintro session later hsound hdeed ⟨hretires, hattributed, hsole⟩
    exact ⟨hretires.afterDeed hsound hattributed hsole hdeed,
      hattributed.afterDeed hsound hdeed, hsole.afterDeed hsound hdeed⟩
  exact hall.1

/-! ## Inertness -/

theorem Outdated.inert_advance (houtdated : session.Outdated id profile)
    (hsound : session.Sound) (hlogged : session.Logged) (hattributed : session.Attributed) :
    (session.advance id).network = session.network ∧
      ((session.advance id).phase = .connected → session.phase = .connected) ∧
      session.toBoard.Adds (session.advance id).toBoard (·.phase ≠ .connected) := by
  rw [← and_assoc]
  constructor
  · rcases session.advance_eq_self_or_turn id with hrest | ⟨call, hcall, hholder, hturn⟩
    · rw [hrest]
      exact ⟨rfl, fun hphase => hphase⟩
    · have hwithdraws := hturn.withdraws (houtdated.request_eq hcall)
        (houtdated.isOvertaken hsound.orderly hcall)
      exact ⟨hwithdraws.network_eq, hwithdraws.phase_of_connected⟩
  · obtain ⟨news, hnews, hgrounded⟩ := adds_act hsound hlogged hattributed (.advance id)
    refine ⟨news, hnews, ?_⟩
    intro announcement hmem hphase
    have hgrounds := hgrounded announcement hmem
    unfold IsGrounded at hgrounds
    rw [hphase] at hgrounds
    generalize announcement.scene.holdings = holdings at hgrounds
    cases hgrounds with
    | arrives hcall hholder hnewest hcarries =>
        simp [houtdated.isOvertaken hsound.orderly hcall] at hnewest

end

/-- Once a newer call was issued after a connect, the connect does nothing on the
network whenever it goes on, and neither brings the session up nor announces that.
If it had not come up by then, it does not come up any more, and nothing is recorded
any more on the link that it had bound, but that it is closed.  A call says that it
was superseded only if a newer one was issued before. -/
theorem overtaken_connect_is_inert (options : Options) (before : List Act) (id : CallId) :
    let session := (initial options).run before
    (∀ given, session.result? id = none →
      (session.act given).result? id = some (.error .superseded) →
      id + 1 < session.calls.length) ∧
      ∀ profile, session.Outdated id profile → ∀ after,
        let later := session.run after
        (later.advance id).network = later.network ∧
          ((later.advance id).phase = .connected → later.phase = .connected) ∧
          later.toBoard.Adds (later.advance id).toBoard (·.phase ≠ .connected) ∧
          (session.result? id ≠ some (.ok ()) →
            later.result? id ≠ some (.ok ()) ∧
              ∀ call link, later.calls[id]? = some call → call.link = some link →
                ∃ record next, session.network.link? link = some record ∧
                  later.network.link? link = some next ∧ Silent record next) := by
  intro session
  have hsound : session.Sound := sound_run options before
  have hattributed : session.Attributed := attributed_run options before
  have hsole : SoleOwners session.calls := soleOwners_run options before
  refine ⟨newer_of_superseded hsound hattributed, ?_⟩
  intro profile houtdated after later
  have hdeeds : session.Deeds later := session.deeds_run after
  have hrun : (initial options).run (before ++ after) = later :=
    run_append (initial options) before after
  obtain ⟨hnetwork, hphase, hannounces⟩ := (houtdated.afterDeeds hdeeds).inert_advance
    (hrun ▸ sound_run options _) (hrun ▸ logged_run options _)
    (hrun ▸ attributed_run options _)
  refine ⟨hnetwork, hphase, hannounces, ?_⟩
  intro hresult
  have hretires := (retires_self houtdated hsound hresult).afterDeeds hsound hattributed hsole
    hdeeds
  exact ⟨hretires.unreached, hretires.silent⟩

/-- A connect that finds its dial ended and itself overtaken at one instant. -/
theorem overtaken_dial_is_inert :
    let before : List Act :=
      [.issue (.connect Profile.Sample.direct), .advance 0, .advance 0, .advance 0,
        .issue .disconnect]
    let session := (initial .standard).run before
    session.Outdated 0 Profile.Sample.direct ∧ session.result? 0 = none ∧
      session.isReady 0 = true ∧
      (session.act (.advance 0)).result? 0 = some (.error .superseded) ∧
      (session.advance 0).network = session.network := by
  intro before session
  have houtdated : session.Outdated 0 Profile.Sample.direct :=
    ⟨⟨_, rfl, rfl⟩, by decide +kernel⟩
  obtain ⟨-, hinert⟩ := overtaken_connect_is_inert .standard before 0
  exact ⟨houtdated, by decide +kernel, by decide +kernel, by decide +kernel,
    (hinert Profile.Sample.direct houtdated []).1⟩

end NodeLink.Session
