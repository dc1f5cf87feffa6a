import NodeLink.Session.Line
/-!
# The line is orderly

Calls hold the session in the order in which they were issued: those before the
holder have ended, and those behind it have not begun.  What the rest of the
session has to know of the line is the stage of its holder.  Issuing a call does
not change that stage, and ending one leaves a holder, if any, that has not
begun.
-/

namespace NodeLink.Session

/-- Whatever stands in a list of which one entry was changed stood there before, or comes of
that change. -/
theorem exists_of_getElem?_modify {α : Type} {items : List α} {change : α → α} {item : α}
    {index other : Nat} (hitem : (items.modify index change)[other]? = some item) :
    ∃ former, items[other]? = some former ∧
      item = if index = other then change former else former := by
  rw [List.getElem?_modify] at hitem
  obtain ⟨former, hformer, rfl⟩ := Option.map_eq_some_iff.mp hitem
  refine ⟨former, hformer, ?_⟩
  split
  next => rfl
  next => rfl

namespace Line

/-- The stage of the call that holds the session.  A session that no call holds
is as it is before its holder has begun. -/
def stage (line : Line) : Stage :=
  match line.held? with
  | none => .queued
  | some call => call.stage

def served (line : Line) : Nat :=
  line.holder.getD line.calls.length

structure Orderly (line : Line) : Prop where
  generation_eq : line.generation = line.calls.length
  own : ∀ (id : Nat) call, line.calls[id]? = some call → call.generation = id + 1
  holder_lt : ∀ id : Nat, line.holder = some id → id < line.calls.length
  isDone_iff : ∀ (id : Nat) call, line.calls[id]? = some call →
    (call.stage.isDone = true ↔ id < line.served)
  queued : ∀ (id : Nat) call, line.calls[id]? = some call → line.served < id →
    call.stage = .queued
  waiting_eq : line.waiting =
    List.range' (line.served + 1) (line.calls.length - (line.served + 1))

theorem initial_orderly : Line.initial.Orderly where
  generation_eq := rfl
  own := by simp [initial]
  holder_lt := by simp [initial]
  isDone_iff := by simp [initial]
  queued := by simp [initial]
  waiting_eq := rfl

theorem isOvertaken_eq_true_iff {line : Line} {call : Call} :
    line.isOvertaken call = true ↔ line.generation ≠ call.generation := by
  simp [isOvertaken]

variable {line : Line} {id : Nat} {call : Call}

/-! ## Issuing a call -/

theorem served_issue (line : Line) (request : Request) :
    (line.issue request).served = line.served := by
  simp only [served, issue]
  cases line.holder <;> simp

theorem getElem?_issue {request : Request}
    (hcall : (line.issue request).calls[id]? = some call) :
    line.calls[id]? = some call ∨
      id = line.calls.length ∧ call = line.issued request := by
  have happended : (line.calls ++ [line.issued request])[id]? = some call := hcall
  rw [List.getElem?_append] at happended
  split at happended
  next => exact .inl happended
  next hle =>
    obtain ⟨hindex, hissued⟩ := List.getElem?_eq_some_iff.mp happended
    simp only [List.length_singleton] at hindex
    simp only [List.getElem_singleton] at hissued
    exact .inr ⟨by omega, hissued.symm⟩

theorem getElem?_issue_of_some (request : Request)
    (hcall : line.calls[id]? = some call) :
    (line.issue request).calls[id]? = some call := by
  have hlt := (List.getElem?_eq_some_iff.mp hcall).1
  simp only [issue]
  rw [List.getElem?_append_left hlt, hcall]

theorem getElem?_issue_self (line : Line) (request : Request) :
    (line.issue request).calls[line.calls.length]? = some (line.issued request) := by
  simp [issue, issued]

theorem length_issue (line : Line) (request : Request) :
    (line.issue request).calls.length = line.calls.length + 1 := by
  simp [issue]

/-! ## Changing a call -/

theorem eq_of_modify_self {calls : List Call} {change : Call → Call} {next : Call}
    (hcall : calls[id]? = some call) (hnext : (calls.modify id change)[id]? = some next) :
    next = change call := by
  obtain ⟨former, hformer, rfl⟩ := exists_of_getElem?_modify hnext
  rw [hcall, Option.some.injEq] at hformer
  rw [if_pos rfl, hformer]

theorem stage_eq (hholder : line.holder = some id) (hcall : line.calls[id]? = some call) :
    line.stage = call.stage := by
  simp [stage, held?, hholder, hcall]

/-! ## What the order says -/

namespace Orderly

theorem held (horderly : line.Orderly) (hholder : line.holder = some id) :
    ∃ call, line.calls[id]? = some call ∧ call.stage.isDone = false := by
  have hlt := horderly.holder_lt id hholder
  refine ⟨line.calls[id], List.getElem?_eq_getElem hlt, ?_⟩
  have hdone := horderly.isDone_iff id _ (List.getElem?_eq_getElem hlt)
  rw [← Bool.not_eq_true, hdone]
  simp [served, hholder]

theorem isDone_of_held (horderly : line.Orderly) (hholder : line.holder = some id)
    (hcall : line.calls[id]? = some call) : call.stage.isDone = false := by
  obtain ⟨held, hheld, hdone⟩ := horderly.held hholder
  obtain rfl : call = held := Option.some.inj (hcall.symm.trans hheld)
  exact hdone

theorem holder_of_begun (horderly : line.Orderly) (hcall : line.calls[id]? = some call)
    (hbegun : call.stage ≠ .queued) (hdone : call.stage.isDone = false) :
    line.holder = some id := by
  have hserved : ¬ id < line.served := by
    rw [← horderly.isDone_iff id call hcall, hdone]
    simp
  have hfirst : ¬ line.served < id := fun hlt =>
    hbegun (horderly.queued id call hcall hlt)
  have hbound := (List.getElem?_eq_some_iff.mp hcall).1
  cases hholder : line.holder with
  | none =>
      simp only [served, hholder, Option.getD_none] at hserved
      omega
  | some other =>
      simp only [served, hholder, Option.getD_some] at hserved hfirst
      exact congrArg some (by grind)

theorem served_le (horderly : line.Orderly) : line.served ≤ line.calls.length := by
  cases hholder : line.holder with
  | none => simp [served, hholder]
  | some id =>
      have hlt := horderly.holder_lt id hholder
      simp only [served, hholder, Option.getD_some]
      omega

theorem isOvertaken_eq_false_iff (horderly : line.Orderly)
    (hcall : line.calls[id]? = some call) :
    line.isOvertaken call = false ↔ id + 1 = line.calls.length := by
  rw [← Bool.not_eq_true, isOvertaken_eq_true_iff, horderly.generation_eq,
    horderly.own id call hcall]
  omega

theorem isOvertaken_iff_newer (horderly : line.Orderly)
    (hcall : line.calls[id]? = some call) :
    line.isOvertaken call = true ↔ id + 1 < line.calls.length := by
  have hlt := (List.getElem?_eq_some_iff.mp hcall).1
  rw [← Bool.not_eq_false, horderly.isOvertaken_eq_false_iff hcall]
  omega

/-- A session that no call holds has no call left. -/
theorem isDone_of_free (horderly : line.Orderly) (hfree : line.holder = none)
    (hcall : line.calls[id]? = some call) : call.stage.isDone = true := by
  rw [horderly.isDone_iff id call hcall, served, hfree, Option.getD_none]
  exact (List.getElem?_eq_some_iff.mp hcall).1

theorem holder_eq_none_of_last (horderly : line.Orderly) (hcall : line.calls[id]? = some call)
    (hdone : call.stage.isDone = true) (hlast : id + 1 = line.calls.length) :
    line.holder = none := by
  have hserved := (horderly.isDone_iff id call hcall).mp hdone
  cases hholder : line.holder with
  | none => rfl
  | some other =>
      have hlt := horderly.holder_lt other hholder
      simp only [served, hholder, Option.getD_some] at hserved
      grind

theorem not_isDone_stage (horderly : line.Orderly) : line.stage.isDone = false := by
  cases hholder : line.holder with
  | none => simp [stage, held?, hholder, Stage.isDone]
  | some id =>
      obtain ⟨call, hcall, hdone⟩ := horderly.held hholder
      rw [stage_eq hholder hcall, hdone]

/-! ## Keeping the order -/

theorem afterIssue (horderly : line.Orderly) (request : Request) :
    (line.issue request).Orderly where
  generation_eq := by
    rw [length_issue, ← horderly.generation_eq]
    rfl
  own := by
    intro id call hcall
    rcases getElem?_issue hcall with hold | ⟨rfl, rfl⟩
    · exact horderly.own id call hold
    · simp [issued, horderly.generation_eq]
  holder_lt := by
    intro id hholder
    rw [length_issue]
    cases hformer : line.holder with
    | none =>
        simp only [issue, hformer, Option.none_or, Option.some.injEq] at hholder
        grind
    | some other =>
        have hlt := horderly.holder_lt other hformer
        simp only [issue, hformer, Option.some_or, Option.some.injEq] at hholder
        grind
  isDone_iff := by
    intro id call hcall
    rw [served_issue]
    rcases getElem?_issue hcall with hold | ⟨rfl, rfl⟩
    · exact horderly.isDone_iff id call hold
    · have hle := horderly.served_le
      simp only [issued, Stage.isDone, Bool.false_eq_true, false_iff]
      omega
  queued := by
    intro id call hcall hlt
    rw [served_issue] at hlt
    rcases getElem?_issue hcall with hold | ⟨rfl, rfl⟩
    · exact horderly.queued id call hold hlt
    · rfl
  waiting_eq := by
    rw [served_issue, length_issue]
    cases hholder : line.holder with
    | none =>
        simp only [issue, hholder, Option.isSome_none, Bool.false_eq_true, if_false,
          horderly.waiting_eq, served, Option.getD_none]
        simp
    | some other =>
        have hlt := horderly.holder_lt other hholder
        have hgap : line.calls.length + 1 - (other + 1) =
            line.calls.length - (other + 1) + 1 := by omega
        simp only [issue, hholder, Option.isSome_some, if_true, horderly.waiting_eq, served,
          Option.getD_some, hgap, List.range'_concat]
        congr 2
        omega

theorem afterModify (horderly : line.Orderly) (hholder : line.holder = some id)
    {change : Call → Call} (hgeneration : ∀ call, (change call).generation = call.generation)
    (hdone : ∀ call, (change call).stage.isDone = false) :
    { line with calls := line.calls.modify id change }.Orderly where
  generation_eq := by
    rw [List.length_modify]
    exact horderly.generation_eq
  own := by
    intro other call hcall
    obtain ⟨former, hformer, rfl⟩ := exists_of_getElem?_modify hcall
    split
    next => rw [hgeneration, horderly.own other former hformer]
    next => exact horderly.own other former hformer
  holder_lt := by
    intro other hother
    rw [List.length_modify]
    exact horderly.holder_lt other hother
  isDone_iff := by
    intro other call hcall
    obtain ⟨former, hformer, rfl⟩ := exists_of_getElem?_modify hcall
    have hiff := horderly.isDone_iff other former hformer
    split
    next heq =>
      subst heq
      simp [hdone, served, hholder]
    next => simpa [served, hholder] using hiff
  queued := by
    intro other call hcall hlt
    obtain ⟨former, hformer, rfl⟩ := exists_of_getElem?_modify hcall
    have hne : id ≠ other := by
      simp only [served, hholder, Option.getD_some] at hlt
      omega
    rw [if_neg hne]
    exact horderly.queued other former hformer (by simpa [served, hholder] using hlt)
  waiting_eq := by
    rw [List.length_modify]
    simpa [served, hholder] using horderly.waiting_eq

theorem afterSetStage (horderly : line.Orderly) (hholder : line.holder = some id)
    {stage : Stage} (hstage : stage.isDone = false) : (line.setStage id stage).Orderly :=
  horderly.afterModify hholder (fun _ => rfl) fun _ => hstage

theorem afterSetBound (horderly : line.Orderly) (hholder : line.holder = some id)
    (link : Rehearsal.LinkId) (deadline : Instant) :
    (line.setBound id link deadline).Orderly :=
  horderly.afterModify hholder (fun _ => rfl) fun _ => rfl

theorem served_finish (horderly : line.Orderly) (hholder : line.holder = some id)
    (result : Except Error Unit) : (line.finish id result).served = id + 1 := by
  have hlt := horderly.holder_lt id hholder
  have hwaiting := horderly.waiting_eq
  simp only [served, hholder, Option.getD_some] at hwaiting
  simp only [served, finish, setStage, List.length_modify, hwaiting, List.head?_range']
  split
  next hzero =>
    rw [Option.getD_none]
    omega
  next => rfl

theorem afterFinish (horderly : line.Orderly) (hholder : line.holder = some id)
    (result : Except Error Unit) : (line.finish id result).Orderly where
  generation_eq := by
    simp only [finish, setStage, List.length_modify]
    exact horderly.generation_eq
  own := by
    intro other call hcall
    obtain ⟨former, hformer, rfl⟩ := exists_of_getElem?_modify hcall
    have hown := horderly.own other former hformer
    split
    next => exact hown
    next => exact hown
  holder_lt := by
    intro other hother
    have hwaiting := horderly.waiting_eq
    simp only [served, hholder, Option.getD_some] at hwaiting
    simp only [finish, hwaiting, List.head?_range'] at hother
    simp only [finish, setStage, List.length_modify]
    split at hother
    next => simp at hother
    next =>
      simp only [Option.some.injEq] at hother
      omega
  isDone_iff := by
    intro other call hcall
    rw [horderly.served_finish hholder]
    obtain ⟨former, hformer, rfl⟩ := exists_of_getElem?_modify hcall
    have hiff := horderly.isDone_iff other former hformer
    simp only [served, hholder, Option.getD_some] at hiff
    split
    next heq =>
      simp only [Stage.isDone, true_iff]
      omega
    next hne =>
      rw [hiff]
      omega
  queued := by
    intro other call hcall hlt
    rw [horderly.served_finish hholder] at hlt
    obtain ⟨former, hformer, rfl⟩ := exists_of_getElem?_modify hcall
    rw [if_neg (by omega)]
    apply horderly.queued other former hformer
    simp only [served, hholder, Option.getD_some]
    omega
  waiting_eq := by
    have hwaiting := horderly.waiting_eq
    simp only [served, hholder, Option.getD_some] at hwaiting
    rw [horderly.served_finish hholder]
    simp only [finish, setStage, List.length_modify, hwaiting, List.tail_range']
    congr 1

end Orderly

/-! ## The stage of the holder -/

theorem stage_issue (horderly : line.Orderly) (request : Request) :
    (line.issue request).stage = line.stage := by
  cases hholder : line.holder with
  | none =>
      have hnext : (line.issue request).holder = some line.calls.length := by
        simp [issue, hholder]
      rw [stage_eq hnext (line.getElem?_issue_self request)]
      simp [stage, held?, hholder, issued]
  | some id =>
      obtain ⟨call, hcall, -⟩ := horderly.held hholder
      have hnext : (line.issue request).holder = some id := by simp [issue, hholder]
      rw [stage_eq hnext (getElem?_issue_of_some request hcall), stage_eq hholder hcall]

theorem stage_setStage (hholder : line.holder = some id)
    (hcall : line.calls[id]? = some call) (stage : Stage) :
    (line.setStage id stage).stage = stage := by
  have hchanged : (line.setStage id stage).calls[id]? = some { call with stage } := by
    simp [setStage, hcall]
  have hkept : (line.setStage id stage).holder = some id := hholder
  rw [stage_eq hkept hchanged]

theorem stage_setBound (hholder : line.holder = some id)
    (hcall : line.calls[id]? = some call) (link : Rehearsal.LinkId) (deadline : Instant) :
    (line.setBound id link deadline).stage = .bound link deadline := by
  have hchanged : (line.setBound id link deadline).calls[id]? =
      some { call with link := some link, stage := .bound link deadline } := by
    simp [setBound, hcall]
  have hkept : (line.setBound id link deadline).holder = some id := hholder
  rw [stage_eq hkept hchanged]

theorem stage_finish (horderly : line.Orderly) (hholder : line.holder = some id)
    (result : Except Error Unit) : (line.finish id result).stage = .queued := by
  have hlater := horderly.afterFinish hholder result
  cases hnext : (line.finish id result).holder with
  | none => simp [stage, held?, hnext]
  | some other =>
      obtain ⟨call, hcall, -⟩ := hlater.held hnext
      have hother : other = id + 1 := by
        have hserved := horderly.served_finish hholder result
        simpa [served, hnext] using hserved
      subst hother
      rw [stage_eq hnext hcall]
      obtain ⟨former, hformer, rfl⟩ := exists_of_getElem?_modify hcall
      rw [if_neg (by omega)]
      apply horderly.queued (id + 1) former hformer
      simp only [served, hholder, Option.getD_some]
      omega

end Line

end NodeLink.Session
