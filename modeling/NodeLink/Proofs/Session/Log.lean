import NodeLink.Proofs.Session.Course
import NodeLink.Proofs.Session.Footing
/-!
# The record of every link

Three parties write on the record of a link: the connect that has bound it,
whoever sends requests, and the task that refreshes discovery.  The footing of a
session keeps them apart: a connect works on its link only while the session is
on its way up, the others use the link only while it is connected, and nobody
has a link that was closed.  So whatever is bound, its record follows the course
of a link up to any moment.
-/

namespace NodeLink.Session

open NodeLink.Rehearsal (Network LinkId Target)

/-- Every call that owns a link connects with a profile, and the record of the link
follows the course for it. -/
def RecordsConform (userAgent : String) (calls : List Call) (network : Network) : Prop :=
  ∀ (id : Nat) call link, calls[id]? = some call → call.link = some link →
    ∃ profile record, call.request = .connect profile ∧ network.link? link = some record ∧
      Conforms userAgent profile link record

def AllOwned (calls : List Call) (size : Nat) : Prop :=
  ∀ link : Nat, link < size →
    ∃ (id : Nat) (call : Call), calls[id]? = some call ∧ call.link = some link

structure Logged (session : Session) : Prop where
  owners : AllOwned session.calls session.network.links.length
  conform : RecordsConform session.options.userAgent session.calls session.network
  stands : ∀ link profile record, session.stage.link? = some link →
    session.holdings.profile = some profile → session.network.link? link = some record →
    Stands session.options.userAgent profile link record session.stage
  serves : ∀ link profile record, session.phase = .connected →
    session.holdings.link = some link → session.holdings.profile = some profile →
    session.network.link? link = some record →
    Serves session.options.userAgent profile link record

theorem initial_logged (options : Options) : (initial options).Logged where
  owners := by simp [AllOwned, initial, Network.initial]
  conform := by
    intro id call link hcall
    simp [initial, Line.initial] at hcall
  stands := by
    intro link profile record hlink
    simp [initial, Line.initial, Line.stage, Line.held?, Stage.link?] at hlink
  serves := by
    intro link profile record hphase
    simp [initial, Board.initial, Phase.initial] at hphase

/-! ## Records and owners -/

theorem AllOwned.of_keepsLinks {calls later : List Call} {size : Nat}
    (howners : AllOwned calls size) (hkeeps : KeepsLinks calls later) : AllOwned later size := by
  intro link hlink
  obtain ⟨id, call, hcall, howns⟩ := howners link hlink
  obtain ⟨next, hnext, hsame⟩ := hkeeps id call link hcall howns
  exact ⟨id, next, hnext, hsame⟩

theorem RecordsConform.of_keepsOwners {userAgent : String} {calls later : List Call}
    {network : Network} (hconform : RecordsConform userAgent calls network)
    (hkeeps : KeepsOwners calls later) : RecordsConform userAgent later network := by
  intro id call link hcall hlink
  obtain ⟨former, hformer, hsame, hrequest⟩ := hkeeps id call link hcall hlink
  rw [← hrequest]
  exact hconform id former link hformer hsame

theorem RecordsConform.of_agreesOff {userAgent : String} {calls : List Call}
    {network later : Network} {holdings : Holdings} {size : Nat} {held : LinkId}
    (hconform : RecordsConform userAgent calls network)
    (howned : Owned calls holdings size) (hheld : holdings.link = some held)
    (hagrees : network.AgreesOff held later)
    (hself : ∀ profile, holdings.profile = some profile →
      ∃ record, later.link? held = some record ∧ Conforms userAgent profile held record) :
    RecordsConform userAgent calls later := by
  intro id call link hcall hlink
  by_cases hsame : link = held
  · subst hsame
    obtain ⟨profile, hrequest, hprofile⟩ := howned.profile id call link hcall hlink hheld
    obtain ⟨record, hrecord, hrecordConforms⟩ := hself profile hprofile
    exact ⟨profile, record, hrequest, hrecord, hrecordConforms⟩
  · rw [hagrees.elsewhere link hsame]
    exact hconform id call link hcall hlink

theorem RecordsConform.release {userAgent : String} {calls : List Call} {network : Network}
    {holdings : Holdings} (hconform : RecordsConform userAgent calls network)
    (hopen : HoldsOpen network holdings) :
    RecordsConform userAgent calls (network.release holdings.link) := by
  cases hheld : holdings.link with
  | none => exact hconform
  | some held =>
      intro id call link hcall hlink
      obtain ⟨profile, record, hrequest, hrecord, hrecordConforms⟩ :=
        hconform id call link hcall hlink
      by_cases hsame : link = held
      · subst hsame
        obtain ⟨found, hfound, hclosed⟩ := Network.isOpen_eq_true_iff.mp (hopen.isOpen hheld)
        rw [hrecord, Option.some.injEq] at hfound
        subst hfound
        exact ⟨profile, _, hrequest, Network.link?_close_self hrecord hclosed,
          hrecordConforms.close hclosed⟩
      · have helsewhere := (network.agreesOff_close held).elsewhere link hsame
        exact ⟨profile, record, hrequest, helsewhere.trans hrecord, hrecordConforms⟩

/-! ## Turns -/

namespace Logged

variable {session : Session} {id : Nat} {call : Call}

/-- Ending a call keeps all records.  They need a look only where the session comes
up by that. -/
theorem afterFinish (hlogged : session.Logged) (moved : Session)
    (horderly : session.toLine.Orderly) (hholder : session.holder = some id)
    (hline : moved.toLine = session.toLine) (hnetwork : moved.network = session.network)
    (hoptions : moved.options = session.options)
    (hserves : ∀ link profile record, moved.phase = .connected →
      moved.holdings.link = some link → moved.holdings.profile = some profile →
      session.network.link? link = some record →
      Serves session.options.userAgent profile link record)
    (result : Except Error Unit) : (moved.finish id result).Logged := by
  have hmoved : moved.toLine.Orderly := hline ▸ horderly
  have hheld : moved.holder = some id := by
    rw [hline]
    exact hholder
  have hstage : (moved.finish id result).stage = .queued :=
    Line.stage_finish hmoved hheld result
  have howners := hlogged.owners.of_keepsLinks
    (keepsLinks_setStage session.toLine id (.done result))
  have hconform := hlogged.conform.of_keepsOwners (keepsOwners_finish session.toLine id result)
  have hcalls : (moved.finish id result).calls = (session.toLine.finish id result).calls := by
    rw [← hline]
    rfl
  have hnet : (moved.finish id result).network = session.network := hnetwork
  have hagent : (moved.finish id result).options = session.options := hoptions
  refine ⟨?_, ?_, ?_, ?_⟩
  · rw [hcalls, hnet]
    exact howners
  · rw [hcalls, hnet, hagent]
    exact hconform
  · intro link profile record hlink
    simp [hstage, Stage.link?] at hlink
  · intro link profile record hphase hlink hprofile hrecord
    rw [hagent]
    exact hserves link profile record hphase hlink hprofile (hnet ▸ hrecord)

theorem afterDropLink (hlogged : session.Logged) (hsound : session.Sound)
    (hcall : session.calls[id]? = some call) (hholder : session.holder = some id)
    {stage : Stage} (hstage : stage.link? = none) :
    (session.dropLink.setStage id stage).Logged where
  owners := by
    have howners := hlogged.owners.of_keepsLinks (keepsLinks_setStage session.toLine id stage)
    rw [← size_release session.network session.holdings.link] at howners
    exact howners
  conform := by
    have hconform := hlogged.conform.release hsound.holdsOpen
    exact hconform.of_keepsOwners (keepsOwners_setStage session.toLine id stage)
  stands := by
    intro link profile record hlink
    have hnext : (session.dropLink.setStage id stage).stage = stage :=
      Line.stage_setStage hholder hcall stage
    simp [hnext, hstage] at hlink
  serves := by
    intro link profile record hphase hlink
    cases hlink

theorem afterStartOver (hlogged : session.Logged) (hcall : session.calls[id]? = some call)
    (hholder : session.holder = some id) (hstage : call.stage = .cleared) (profile : Profile)
    (binds : List Link.Terms) :
    { session.startOver profile with network := { session.network with binds } }.Logged where
  owners := hlogged.owners
  conform := hlogged.conform
  stands := by
    intro link found record hlink
    have hheld : session.stage = .cleared := hstage ▸ Line.stage_eq hholder hcall
    have hlink' : session.stage.link? = some link := hlink
    simp [hheld, Stage.link?] at hlink'
  serves := by
    intro link found record hphase
    have hphase' : (session.startOver profile).phase = .connected := hphase
    simp at hphase'

theorem record_of_works {profile : Profile} {link : LinkId} (hlogged : session.Logged)
    (hsound : session.Sound) (hcall : session.calls[id]? = some call)
    (hholder : session.holder = some id) (hrequest : call.request = .connect profile)
    (hworks : call.stage.link? = some link) :
    ∃ record, session.network.link? link = some record ∧ record.closed = false ∧
      Stands session.options.userAgent profile link record call.stage := by
  have hbuilds := (hsound.fits_call hcall hholder).builds hworks
  have hheld : session.stage = call.stage := Line.stage_eq hholder hcall
  have hprofile := hsound.profile_of_works hcall hholder hrequest hworks
  obtain ⟨record, hrecord, hclosed⟩ :=
    Network.isOpen_eq_true_iff.mp (hsound.holdsOpen.isOpen hbuilds.link_eq)
  exact ⟨record, hrecord, hclosed,
    hheld ▸ hlogged.stands link profile record (hheld ▸ hworks) hprofile hrecord⟩

theorem afterWork {profile : Profile} {link : LinkId} {network : Network} {stage : Stage}
    (hlogged : session.Logged) (hsound : session.Sound)
    (hcall : session.calls[id]? = some call) (hholder : session.holder = some id)
    (hrequest : call.request = .connect profile) (hworks : call.stage.link? = some link)
    (hagrees : session.network.AgreesOff link network) (hstage : stage.link? = some link)
    (hself : ∀ record, session.network.link? link = some record → record.closed = false →
      Stands session.options.userAgent profile link record call.stage →
      ∃ later, network.link? link = some later ∧ later.closed = false ∧
        Stands session.options.userAgent profile link later stage) :
    ({ session with network }.setStage id stage).Logged := by
  have hbuilds := (hsound.fits_call hcall hholder).builds hworks
  have hprofile := hsound.profile_of_works hcall hholder hrequest hworks
  obtain ⟨former, hformer, hclosed, hformerStands⟩ :=
    hlogged.record_of_works hsound hcall hholder hrequest hworks
  obtain ⟨later, hlater, hopen, hstands⟩ := hself former hformer hclosed hformerStands
  refine ⟨?_, ?_, ?_, ?_⟩
  · have howners := hlogged.owners.of_keepsLinks (keepsLinks_setStage session.toLine id stage)
    rw [← hagrees.size] at howners
    exact howners
  · have hconform : RecordsConform session.options.userAgent session.calls network := by
      apply hlogged.conform.of_agreesOff hsound.owned hbuilds.link_eq hagrees
      intro found hfound
      obtain rfl : profile = found := Option.some.inj (hprofile.symm.trans hfound)
      exact ⟨later, hlater, hstands.conforms hopen⟩
    exact hconform.of_keepsOwners (keepsOwners_setStage session.toLine id stage)
  · intro other found record hother hfound hrecord
    have hnext : ({ session with network }.setStage id stage).stage = stage :=
      Line.stage_setStage hholder hcall stage
    rw [hnext] at hother ⊢
    obtain rfl : other = link := Option.some.inj (hother.symm.trans hstage)
    obtain rfl : profile = found := Option.some.inj (hprofile.symm.trans hfound)
    obtain rfl : later = record := Option.some.inj (hlater.symm.trans hrecord)
    exact hstands
  · intro other found record hphase
    have hphase' : session.phase = .connected := hphase
    simp [hbuilds.phase_eq] at hphase'

theorem afterBind {profile : Profile} (hlogged : session.Logged) (hsound : session.Sound)
    (hcall : session.calls[id]? = some call) (hholder : session.holder = some id)
    (hstage : call.stage = .cleared) (hrequest : call.request = .connect profile)
    (binds : List Link.Terms) :
    ({ session.startOver profile with
        network := { session.network with
          binds
          links := session.network.links ++ [Rehearsal.Link.bound Service.protocols] } }.adopt id
      profile session.network.links.length).Logged := by
  let grown : Network := { session.network with
    binds
    links := session.network.links ++ [Rehearsal.Link.bound Service.protocols] }
  let link := session.network.links.length
  let deadline := session.now + session.options.connectTimeout.nanos
  let built := { session.startOver profile with network := grown }.adopt id profile link
  have hagrees := grown.agreesOff_resolveEach link profile.bootstrap
  have hself : built.network.link? link = some
      { Rehearsal.Link.bound Service.protocols with calls := resolutions profile } := by
    show (grown.resolveEach link profile.bootstrap).link? link = _
    have hbound : grown.link? link = some (Rehearsal.Link.bound Service.protocols) :=
      List.getElem?_concat_length
    rw [Network.link?_resolveEach_self, hbound]
    rfl
  have hother : ∀ other : Nat, other < link →
      built.network.link? other = session.network.link? other := by
    intro other hlt
    show (grown.resolveEach link profile.bootstrap).link? other = _
    rw [hagrees.elsewhere other (Nat.ne_of_lt hlt)]
    exact List.getElem?_append_left hlt
  have hstands : Stands session.options.userAgent profile link
      { Rehearsal.Link.bound Service.protocols with calls := resolutions profile }
      (.bound link deadline) := ⟨rfl, rfl, rfl⟩
  have hnext : built.stage = .bound link deadline :=
    Line.stage_setBound hholder hcall link deadline
  show built.Logged
  refine ⟨?_, ?_, ?_, ?_⟩
  · have hnone := hsound.owned.unbound id call hcall (by rw [hstage]; rfl)
    intro owned howned
    have hsize : built.network.links.length = link + 1 := by
      show (grown.resolveEach link profile.bootstrap).links.length = _
      rw [hagrees.size]
      simp [grown, link]
    rw [hsize] at howned
    rcases Nat.lt_succ_iff_lt_or_eq.mp howned with hlt | rfl
    · have howners := hlogged.owners.of_keepsLinks
        (keepsLinks_setBound hcall hnone link deadline)
      exact howners owned hlt
    · refine ⟨id, { call with link := some link, stage := .bound link deadline }, ?_, rfl⟩
      show (session.toLine.setBound id link deadline).calls[id]? = _
      simp [Line.setBound, hcall]
  · intro owner later owned hlater howns
    rcases getElem?_setBound hcall hlater with ⟨rfl, rfl⟩ | ⟨-, hformer⟩
    · obtain rfl : link = owned := Option.some.inj howns
      exact ⟨profile, _, hrequest, hself, hstands.conforms rfl⟩
    · have hlt := hsound.owned.lt_size owner later owned hformer howns
      rw [hother owned hlt]
      exact hlogged.conform owner later owned hformer howns
  · intro owned found record howned hfound hrecord
    rw [hnext] at howned ⊢
    obtain rfl : link = owned := Option.some.inj howned
    obtain rfl : profile = found := Option.some.inj hfound
    rw [hself, Option.some.injEq] at hrecord
    subst hrecord
    exact hstands
  · intro owned found record hphase
    have hphase' : (session.startOver profile).phase = .connected := hphase
    simp at hphase'

theorem afterEndSession (hlogged : session.Logged) (hsound : session.Sound)
    (hholder : session.holder = some id) : (session.endSession id).Logged := by
  apply hlogged.afterFinish ((session.setProfile none).moveTo .disconnected) hsound.orderly
    hholder rfl rfl rfl
  intro link profile record hphase
  simp at hphase

theorem afterTurn {later : Session} (hlogged : session.Logged) (hsound : session.Sound)
    (hcall : session.calls[id]? = some call) (hholder : session.holder = some id)
    (hturn : Turn session id call later) : later.Logged := by
  have hfits := hsound.fits_call hcall hholder
  cases hturn with
  | overtaken hrequest hstage hovertaken =>
      exact hlogged.afterFinish session hsound.orderly hholder rfl rfl rfl hlogged.serves _
  | refused hrequest hstage hnewest hshut =>
      exact hlogged.afterFinish session hsound.orderly hholder rfl rfl rfl hlogged.serves _
  | cleared hstage hgoes => exact hlogged.afterDropLink hsound hcall hholder rfl
  | left hrequest hstage hovertaken =>
      rename_i profile
      apply hlogged.afterFinish (session.startOver profile) hsound.orderly hholder rfl rfl rfl
      intro link found record hphase
      simp at hphase
  | hindered hrequest hstage hnewest hobstacle binds =>
      rename_i profile error
      have hstarted := hlogged.afterStartOver hcall hholder hstage profile binds
      have hfooting := hsound.afterStartOver hcall hholder hstage profile
      exact hstarted.afterDropLink
        (hfooting.afterTraffic rfl fun _ => rfl) hcall hholder rfl
  | bound hrequest hstage hnewest hobstacle binds =>
      exact hlogged.afterBind hsound hcall hholder hstage hrequest binds
  | failed hrequest hnewest hsetback => exact hlogged.afterDropLink hsound hcall hholder rfl
  | dialed hrequest hstage hnewest htarget =>
      rename_i profile link deadline target
      have hworks : call.stage.link? = some link := by rw [hstage]; rfl
      apply hlogged.afterWork hsound hcall hholder hrequest hworks
        (session.network.agreesOff_record link (.dial target)) rfl
      intro record hrecord hopen hstands
      rw [hstage] at hstands
      refine ⟨record.record (.dial target), ?_, hopen, target, htarget, ?_, hstands.2⟩
      · rw [Network.link?_record_self, hrecord, Option.map_some]
      · rw [← hstands.1]
        rfl
  | signedIn hrequest hstage hnewest hwake hfailure hopen =>
      rename_i profile dial
      have hworks : call.stage.link? = some dial.link := by rw [hstage]; rfl
      let dialed := session.network.modify dial.link fun link =>
        { link with dialed := true, lost := false }
      apply hlogged.afterWork hsound hcall hholder hrequest hworks
        ((session.network.agreesOff_modify dial.link _).trans
          (dialed.agreesOff_request dial.link _ _)) rfl
      intro record hrecord hclosed hstands
      have hdialed : dialed.link? dial.link =
          some { record with dialed := true, lost := false } := by
        rw [Network.link?_modify_self, hrecord, Option.map_some]
      obtain ⟨lost, hlater⟩ := Network.link?_request_self hdialed Service.auth.protocol
        (authPayload profile.token session.options.userAgent (Network.localName dial.link))
      rw [hstage] at hstands
      exact ⟨_, hlater, hclosed, hstands.sign lost⟩
  | connected hrequest hstage hnewest =>
      rename_i profile link
      let arrived := (session.startRefresh link profile.bootstrap).moveTo .connected
      have hworks : call.stage.link? = some link := by rw [hstage]; rfl
      have hheld : session.stage = call.stage := Line.stage_eq hholder hcall
      have hbuilds := hfits.builds hworks
      apply hlogged.afterFinish arrived hsound.orderly hholder rfl rfl rfl
      intro other found record _ hlink hfound hrecord
      obtain rfl : link = other := Option.some.inj (hbuilds.link_eq.symm.trans hlink)
      have hstands := hlogged.stands link found record (hheld ▸ hworks) hfound hrecord
      rw [hheld, hstage] at hstands
      exact hstands.serves
  | fell hrequest hstage =>
      apply hlogged.afterFinish (session.moveTo .failed) hsound.orderly hholder rfl rfl rfl
      intro link profile record hphase
      simp at hphase
  | ended hrequest hstage => exact hlogged.afterEndSession hsound hholder
  | shutDown hrequest hstage =>
      have hended := hlogged.afterEndSession hsound hholder
      exact ⟨hended.owners, hended.conform, hended.stands, hended.serves⟩

/-! ## Deeds -/

theorem afterUse {link : LinkId} {network : Network} (hlogged : session.Logged)
    (hsound : session.Sound) (hphase : session.phase = .connected)
    (hlink : session.holdings.link = some link)
    (hagrees : session.network.AgreesOff link network)
    (hself : ∀ profile record, session.holdings.profile = some profile →
      session.network.link? link = some record → record.closed = false →
      Serves session.options.userAgent profile link record →
      ∃ later, network.link? link = some later ∧ later.closed = false ∧
        Serves session.options.userAgent profile link later) :
    { session with network }.Logged := by
  obtain ⟨former, hformer, hclosed⟩ :=
    Network.isOpen_eq_true_iff.mp (hsound.holdsOpen.isOpen hlink)
  have hnow : ∀ profile, session.holdings.profile = some profile →
      ∃ later, network.link? link = some later ∧ later.closed = false ∧
        Serves session.options.userAgent profile link later := by
    intro profile hprofile
    apply hself profile former hprofile hformer hclosed
    exact hlogged.serves link profile former hphase hlink hprofile hformer
  refine ⟨?_, ?_, ?_, ?_⟩
  · show AllOwned session.calls network.links.length
    rw [hagrees.size]
    exact hlogged.owners
  · apply hlogged.conform.of_agreesOff hsound.owned hlink hagrees
    intro profile hprofile
    obtain ⟨later, hlater, hopen, hserves⟩ := hnow profile hprofile
    exact ⟨later, hlater, hserves.conforms hopen⟩
  · intro other profile record hother
    have hother' : session.stage.link? = some other := hother
    simp [hsound.stage_of_connected hphase hlink, Stage.link?] at hother'
  · intro other profile record _ hother hprofile hrecord
    obtain rfl : link = other := Option.some.inj (hlink.symm.trans hother)
    obtain ⟨later, hlater, -, hserves⟩ := hnow profile hprofile
    obtain rfl : later = record := Option.some.inj (hlater.symm.trans hrecord)
    exact hserves

theorem afterCue (hlogged : session.Logged) (cue : Rehearsal.Cue) :
    (session.cue cue).Logged where
  owners := by
    show AllOwned session.calls (session.network.cue cue).links.length
    rw [session.network.size_cue]
    exact hlogged.owners
  conform := by
    intro id call link hcall hlink
    obtain ⟨profile, record, hrequest, hrecord, hconforms⟩ :=
      hlogged.conform id call link hcall hlink
    obtain ⟨lost, hlater⟩ := Network.exists_link?_cue cue hrecord
    exact ⟨profile, _, hrequest, hlater, hconforms.lose lost⟩
  stands := by
    intro link profile record hlink hprofile hrecord
    obtain ⟨former, hformer, hlost⟩ := Network.link?_cue cue hrecord
    rw [hlost]
    exact (hlogged.stands link profile former hlink hprofile hformer).lose record.lost
  serves := by
    intro link profile record hphase hlink hprofile hrecord
    obtain ⟨former, hformer, hlost⟩ := Network.link?_cue cue hrecord
    rw [hlost]
    exact (hlogged.serves link profile former hphase hlink hprofile hformer).lose record.lost

theorem afterDeed {later : Session} (hlogged : session.Logged) (hsound : session.Sound)
    (hdeed : session.Deed later) : later.Logged := by
  cases hdeed with
  | issued request =>
      have hstage : (session.issue request).stage = session.stage :=
        Line.stage_issue hsound.orderly request
      refine ⟨hlogged.owners.of_keepsLinks (keepsLinks_issue _ request),
        hlogged.conform.of_keepsOwners (keepsOwners_issue _ request), ?_, hlogged.serves⟩
      intro link profile record
      rw [hstage]
      exact hlogged.stands link profile record
  | turned hcall hholder hturn => exact hlogged.afterTurn hsound hcall hholder hturn
  | sent hphase hlink service payload =>
      rename_i link
      apply hlogged.afterUse hsound hphase hlink
        (session.network.agreesOff_request link service.protocol payload)
      intro profile record hprofile hrecord hopen hserves
      obtain ⟨lost, hlater⟩ :=
        Network.link?_request_self hrecord service.protocol payload
      exact ⟨_, hlater, hopen, hserves.request service payload _ lost⟩
  | lost hphase hlink =>
      refine ⟨hlogged.owners, hlogged.conform, ?_, ?_⟩
      · intro link profile record hworks
        have hworks' : session.stage.link? = some link := hworks
        simp [hsound.stage_of_connected hphase hlink, Stage.link?] at hworks'
      · intro link profile record hfailed
        simp at hfailed
  | resolved htask hlive hdue =>
      rename_i id task
      have hheld := hsound.tends.only id task htask hlive
      obtain ⟨hphase, found, profile, hfound, -, hlink, hprofile, hentries⟩ :=
        hsound.tends.live id hheld
      obtain rfl : task = found := Option.some.inj (htask.symm.trans hfound)
      have hused : { session with
          network := session.network.resolveEach task.link task.entries }.Logged := by
        apply hlogged.afterUse hsound hphase hlink
          (session.network.agreesOff_resolveEach task.link task.entries)
        intro held record hheldProfile hrecord hopen hserves
        obtain rfl : profile = held := Option.some.inj (hprofile.symm.trans hheldProfile)
        have hlater := session.network.link?_resolveEach_self task.link task.entries
        rw [hrecord, Option.map_some, hentries] at hlater
        rw [hentries]
        exact ⟨_, hlater, hopen, hserves.round⟩
      exact ⟨hused.owners, hused.conform, hused.stands, hused.serves⟩
  | cued cue => exact hlogged.afterCue cue
  | waited | enrolled =>
      exact ⟨hlogged.owners, hlogged.conform, hlogged.stands, hlogged.serves⟩

end Logged

theorem logged_run (options : Options) (acts : List Act) :
    ((initial options).run acts).Logged := by
  apply run_induction
  · intro session later hsound hdeed hlogged
    exact hlogged.afterDeed hsound hdeed
  · exact initial_logged options

theorem options_deed {session later : Session} (hdeed : session.Deed later) :
    later.options = session.options := by
  cases hdeed with
  | turned hcall hholder hturn =>
      cases hturn with
      | overtaken | refused | cleared | left | hindered | bound | failed | dialed | signedIn
      | connected | fell | ended | shutDown => rfl
  | issued | sent | lost | resolved | waited | cued | enrolled => rfl

theorem options_run (options : Options) (acts : List Act) :
    ((initial options).run acts).options = options := by
  apply run_induction (motive := fun session => session.options = options)
  · intro session later _ hdeed hsame
    rw [options_deed hdeed, hsame]
  · rfl

/-- Every link was bound by a connect, and at every moment of every run its record
follows the course of a link for the profile of that connect: it resolves the
entries, dials the preferred address, signs in only after the dial succeeded, is
used only after the sign-in was accepted, and ends when it is closed. -/
theorem records_follow_course (options : Options) (acts : List Act) :
    let session := (initial options).run acts
    (∀ link : Nat, link < session.network.links.length →
      ∃ (id : Nat) (call : Call), session.calls[id]? = some call ∧ call.link = some link) ∧
      ∀ (id : Nat) call link, session.calls[id]? = some call → call.link = some link →
        ∃ profile record, call.request = .connect profile ∧
          session.network.link? link = some record ∧
          Conforms options.userAgent profile link record ∧
          ∀ former latter, record.calls = former ++ .close :: latter →
            latter = [] ∧ record.closed = true := by
  intro session
  have hlogged : session.Logged := logged_run options acts
  have hoptions : session.options = options := options_run options acts
  refine ⟨hlogged.owners, ?_⟩
  intro id call link hcall hlink
  obtain ⟨profile, record, hrequest, hrecord, hconforms⟩ :=
    hlogged.conform id call link hcall hlink
  rw [hoptions] at hconforms
  refine ⟨profile, record, hrequest, hrecord, hconforms, ?_⟩
  intro former latter hcalls
  exact hconforms.close_last hcalls

end NodeLink.Session
