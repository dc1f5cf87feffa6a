import NodeLink.Proofs.Json.Canonical
/-!
# Texts within texts

The machine reads the text of a value in the same way wherever the value stands.
The arrays and objects that are open around it lie below on the stack and are not
touched before the value is complete.  They only take away from the nesting that is
allowed, so a text may be put into another one as long as the levels of both add up
to no more than that.
-/

namespace NodeLink.Json

mutual

/-- How many levels of arrays and objects a value has. -/
def Value.depth : Value → Nat
  | .array items => depthOfItems items + 1
  | .object members => depthOfMembers members + 1
  | _ => 0

def depthOfItems : List Value → Nat
  | [] => 0
  | item :: rest => max item.depth (depthOfItems rest)

def depthOfMembers : List (String × Value) → Nat
  | [] => 0
  | (_, value) :: rest => max value.depth (depthOfMembers rest)

end

theorem depthOfItems_append (former latter : List Value) :
    depthOfItems (former ++ latter) = max (depthOfItems former) (depthOfItems latter) := by
  induction former with
  | nil => simp [depthOfItems]
  | cons item rest ih => rw [List.cons_append, depthOfItems, depthOfItems, ih, Nat.max_assoc]

theorem depthOfItems_reverse (items : List Value) :
    depthOfItems items.reverse = depthOfItems items := by
  induction items with
  | nil => rfl
  | cons item rest ih =>
      rw [List.reverse_cons, depthOfItems_append, ih, Nat.max_comm]
      simp [depthOfItems]

theorem depthOfMembers_append (former latter : List (String × Value)) :
    depthOfMembers (former ++ latter) = max (depthOfMembers former) (depthOfMembers latter) := by
  induction former with
  | nil => simp [depthOfMembers]
  | cons member rest ih =>
      obtain ⟨name, value⟩ := member
      rw [List.cons_append, depthOfMembers, depthOfMembers, ih, Nat.max_assoc]

theorem depthOfMembers_reverse (members : List (String × Value)) :
    depthOfMembers members.reverse = depthOfMembers members := by
  induction members with
  | nil => rfl
  | cons member rest ih =>
      obtain ⟨name, value⟩ := member
      rw [List.reverse_cons, depthOfMembers_append, ih, Nat.max_comm]
      simp [depthOfMembers]

namespace Reader

variable {known : String → Bool}

/-! ## How far a machine has got in depth -/

def Frame.depth : Frame → Nat
  | .array before => depthOfItems before
  | .object before _ => depthOfMembers before

def stackHeight : List Frame → Nat
  | [] => 0
  | frame :: rest => max (rest.length + 1 + frame.depth) (stackHeight rest)

/-- The levels that the value will have at least, by what has been read of it. -/
def State.height (st : State) : Nat :=
  match st.mode with
  | .complete value => value.depth
  | _ => stackHeight st.stack

theorem length_le_stackHeight (stack : List Frame) : stack.length ≤ stackHeight stack := by
  cases stack with
  | nil => exact Nat.le_refl 0
  | cons frame rest =>
      simp only [List.length_cons, stackHeight]
      omega

theorem height_deliver (st : State) (value : Value) :
    max (stackHeight st.stack) (st.stack.length + value.depth) ≤ (st.deliver value).height := by
  unfold State.deliver
  split
  next hstack => simp [hstack, State.height, stackHeight]
  next before rest hstack =>
    simp only [hstack, State.height, stackHeight, Frame.depth, depthOfItems, List.length_cons]
    omega
  next before name rest hstack =>
    simp only [hstack, State.height, stackHeight, Frame.depth, depthOfMembers, List.length_cons]
    omega

theorem stackHeight_le_deliver (st : State) (value : Value) :
    stackHeight st.stack ≤ (st.deliver value).height :=
  Nat.le_trans (Nat.le_max_left _ _) (height_deliver st value)

theorem height_close {st later : State} {c : Char} (hclose : st.close c = some later) :
    stackHeight st.stack ≤ later.height := by
  unfold State.close at hclose
  split at hclose
  next before rest hstack =>
    split at hclose
    next =>
      obtain rfl := Option.some.inj hclose
      have hdeliver := height_deliver { st with stack := rest } (.array before.reverse)
      simp only [Value.depth, depthOfItems_reverse] at hdeliver
      simp only [hstack, stackHeight, Frame.depth]
      omega
    next => cases hclose
  next before name rest hstack =>
    split at hclose
    next =>
      obtain rfl := Option.some.inj hclose
      have hdeliver := height_deliver { st with stack := rest } (.object before.reverse)
      simp only [Value.depth, depthOfMembers_reverse] at hdeliver
      simp only [hstack, stackHeight, Frame.depth]
      omega
    next => cases hclose
  next => cases hclose

theorem stackHeight_cons (frame : Frame) (rest : List Frame) :
    stackHeight rest ≤ stackHeight (frame :: rest) :=
  Nat.le_max_right _ _

theorem height_begin {st later : State} {c : Char} (hbegin : st.begin c = some later) :
    stackHeight st.stack ≤ later.height := by
  unfold State.begin State.openWith at hbegin
  split_ifs at hbegin <;> simp only [Option.some.injEq, Option.map_eq_some_iff] at hbegin
  · exact hbegin ▸ stackHeight_cons _ _
  · exact hbegin ▸ stackHeight_cons _ _
  · exact hbegin ▸ Nat.le_refl _
  · exact hbegin ▸ Nat.le_refl _
  · exact hbegin ▸ Nat.le_refl _
  · exact hbegin ▸ Nat.le_refl _
  · obtain ⟨literal, -, rfl⟩ := hbegin
    exact Nat.le_refl _

theorem height_behind {st later : State} {c : Char} (hbehind : st.behind c = some later) :
    st.height ≤ later.height := by
  obtain ⟨stack, mode, skimming⟩ := st
  unfold State.behind at hbehind
  split at hbehind
  next =>
    obtain rfl := Option.some.inj hbehind
    exact Nat.le_refl _
  next =>
    cases mode with
    | complete value => simp at hbehind
    | value | name | colon | text | word | number | behind =>
        cases stack with
        | nil => simp at hbehind
        | cons frame rest =>
            cases frame with
            | array | object =>
                simp only at hbehind
                split at hbehind
                next =>
                  obtain rfl := Option.some.inj hbehind
                  exact Nat.le_refl _
                next => exact height_close hbehind

theorem height_endString {st later : State} {isName : Bool} {part : StringText}
    (hend : st.endString isName part = some later) : stackHeight st.stack ≤ later.height := by
  unfold State.endString at hend
  split at hend
  next => cases hend
  next =>
    simp only at hend
    split at hend
    next =>
      obtain rfl := Option.some.inj hend
      exact stackHeight_le_deliver st _
    next =>
      split at hend
      next before former rest hstack =>
        obtain rfl := Option.some.inj hend
        exact Nat.le_of_eq (by rw [hstack]; rfl)
      next => cases hend

theorem height_endNumber {st later : State} {literal : NumberText}
    (hend : st.endNumber literal = some later) : stackHeight st.stack ≤ later.height := by
  unfold State.endNumber at hend
  split at hend
  next =>
    obtain rfl := Option.some.inj hend
    exact stackHeight_le_deliver st _
  next =>
    split at hend
    next =>
      obtain rfl := Option.some.inj hend
      exact stackHeight_le_deliver st _
    next => cases hend

/-- What has been read of a value is not lost again. -/
theorem height_step {st later : State} {c : Char} (hstep : st.step known c = some later) :
    st.height ≤ later.height := by
  obtain ⟨stack, mode, skimming⟩ := st
  cases mode with
  | value closable =>
      simp only [State.step] at hstep
      split_ifs at hstep
      · obtain rfl := Option.some.inj hstep
        exact Nat.le_refl _
      · exact height_close hstep
      · exact height_begin hstep
  | name closable =>
      simp only [State.step] at hstep
      split_ifs at hstep
      · obtain rfl := Option.some.inj hstep
        exact Nat.le_refl _
      · obtain rfl := Option.some.inj hstep
        exact Nat.le_refl _
      · exact height_close hstep
  | colon =>
      simp only [State.step] at hstep
      split_ifs at hstep
      · obtain rfl := Option.some.inj hstep
        exact Nat.le_refl _
      · obtain rfl := Option.some.inj hstep
        exact Nat.le_refl _
  | text isName part =>
      simp only [State.step] at hstep
      split at hstep
      · exact height_endString hstep
      · obtain ⟨next, -, rfl⟩ := Option.map_eq_some_iff.mp hstep
        exact Nat.le_refl _
  | word rest value =>
      simp only [State.step] at hstep
      split at hstep
      · cases hstep
      · split at hstep
        · obtain rfl := Option.some.inj hstep
          exact stackHeight_le_deliver _ value
        · cases hstep
      · split at hstep
        · obtain rfl := Option.some.inj hstep
          exact Nat.le_refl _
        · cases hstep
  | number literal =>
      simp only [State.step] at hstep
      split at hstep
      · obtain rfl := Option.some.inj hstep
        exact Nat.le_refl _
      · split at hstep
        · obtain ⟨ended, hended, hbehind⟩ := Option.bind_eq_some_iff.mp hstep
          refine Nat.le_trans ?_ (height_behind hbehind)
          exact height_endNumber hended
        · cases hstep
  | behind => exact height_behind hstep
  | complete value => exact height_behind hstep

theorem Reads.height_le {st later : State} {text : List Char} (hreads : Reads known st text later) :
    st.height ≤ later.height := by
  induction text generalizing st with
  | nil =>
      obtain rfl := Option.some.inj hreads
      exact Nat.le_refl _
  | cons c rest ih =>
      unfold Reads at hreads ih
      rw [List.foldlM_cons, Option.bind_eq_bind, Option.bind_eq_some_iff] at hreads
      obtain ⟨next, hstep, hrest⟩ := hreads
      exact Nat.le_trans (height_step hstep) (ih hrest)

theorem height_le_of_finish {st : State} {value : Value} (hfinish : st.finish = .ok value) :
    st.height ≤ value.depth := by
  unfold State.finish at hfinish
  split at hfinish
  next found hmode =>
    obtain rfl := Except.ok.inj hfinish
    simp [State.height, hmode]
  next literal hmode =>
    split_ifs at hfinish
    split at hfinish
    next => cases hfinish
    next found _ hend =>
      obtain rfl := Except.ok.inj hfinish
      have hheight := height_endNumber hend
      simpa [State.height, hmode] using hheight
    next => cases hfinish
  next => cases hfinish

/-! ## Reading above other frames -/

/-- A machine that reads one text as if it stood within other arrays and objects. -/
def State.over (base : List Frame) (st : State) : State :=
  match st.mode with
  | .complete value => delivered base value
  | mode => ⟨st.stack ++ base, mode, false⟩

variable {base : List Frame}

theorem over_deliver (stack : List Frame) (mode : Mode) (value : Value) :
    (State.deliver ⟨stack, mode, false⟩ value).over base = delivered (stack ++ base) value := by
  cases stack with
  | nil => rfl
  | cons frame rest =>
      cases frame with
      | array before => rfl
      | object before name => simp [State.deliver, State.over, delivered]

theorem skimming_deliver (stack : List Frame) (mode : Mode) (value : Value) :
    (State.deliver ⟨stack, mode, false⟩ value).skimming = false := by
  cases stack with
  | nil => rfl
  | cons frame rest => cases frame <;> rfl

theorem over_close {stack : List Frame} {mode : Mode} {c : Char} {later : State}
    (hclose : State.close ⟨stack, mode, false⟩ c = some later) :
    State.close ⟨stack ++ base, mode, false⟩ c = some (later.over base) ∧
      later.skimming = false := by
  unfold State.close at hclose
  cases stack with
  | nil => cases hclose
  | cons frame rest =>
      cases frame with
      | array | object =>
          simp only at hclose
          split at hclose
          next hc =>
            obtain rfl := Option.some.inj hclose
            rw [over_deliver]
            exact ⟨by simp [State.close, hc, deliver_eq], skimming_deliver _ _ _⟩
          next => cases hclose

theorem eq_of_openWith {stack : List Frame} {mode inner : Mode} {frame : Frame} {later : State}
    (hopen : State.openWith ⟨stack, mode, false⟩ frame inner = some later) :
    later = ⟨frame :: stack, inner, false⟩ := by
  unfold State.openWith at hopen
  split at hopen
  next => cases hopen
  next => exact (Option.some.inj hopen).symm

theorem openWith_of_room {stack : List Frame} (mode : Mode) (frame : Frame) (inner : Mode)
    (hroom : stack.length < greatestDepth) :
    State.openWith ⟨stack, mode, false⟩ frame inner = some ⟨frame :: stack, inner, false⟩ := by
  have hdeep : ¬ greatestDepth ≤ stack.length := Nat.not_le.mpr hroom
  simp [State.openWith, hdeep]

theorem over_begin {stack : List Frame} {mode : Mode} {c : Char} {later : State}
    (hbegin : State.begin ⟨stack, mode, false⟩ c = some later)
    (hdepth : later.height + base.length ≤ greatestDepth) :
    State.begin ⟨stack ++ base, mode, false⟩ c = some (later.over base) ∧
      later.skimming = false := by
  have hroom (frame : Frame) : stackHeight (frame :: stack) + base.length ≤ greatestDepth →
      (stack ++ base).length < greatestDepth := by
    have hlength := length_le_stackHeight (frame :: stack)
    rw [List.length_cons] at hlength
    rw [List.length_append]
    omega
  unfold State.begin at hbegin ⊢
  split_ifs at hbegin ⊢
  · obtain rfl := eq_of_openWith hbegin
    exact ⟨openWith_of_room _ _ _ (hroom _ hdepth), rfl⟩
  · obtain rfl := eq_of_openWith hbegin
    exact ⟨openWith_of_room _ _ _ (hroom _ hdepth), rfl⟩
  · obtain rfl := Option.some.inj hbegin
    exact ⟨rfl, rfl⟩
  · obtain rfl := Option.some.inj hbegin
    exact ⟨rfl, rfl⟩
  · obtain rfl := Option.some.inj hbegin
    exact ⟨rfl, rfl⟩
  · obtain rfl := Option.some.inj hbegin
    exact ⟨rfl, rfl⟩
  · obtain ⟨literal, hstart, rfl⟩ := Option.map_eq_some_iff.mp hbegin
    exact ⟨by rw [hstart]; rfl, rfl⟩

theorem over_behind {st later : State} {c : Char} (hbehind : st.behind c = some later)
    (hskim : st.skimming = false) :
    (st.over base).behind c = some (later.over base) ∧ later.skimming = false := by
  obtain ⟨stack, mode, skimming⟩ := st
  obtain rfl : skimming = false := hskim
  by_cases hspace : isSpace c = true
  · obtain rfl : _ = later := by simpa [State.behind, hspace] using hbehind
    exact ⟨by simp [State.behind, hspace], rfl⟩
  · rw [Bool.not_eq_true] at hspace
    cases mode with
    | complete value => simp [State.behind, hspace] at hbehind
    | value | name | colon | text | word | number | behind =>
        simp only [State.over]
        cases stack with
        | nil => simp [State.behind, hspace] at hbehind
        | cons frame rest =>
            cases frame with
            | array | object =>
                simp only [State.behind, hspace, Bool.false_eq_true, if_false, List.cons_append]
                  at hbehind ⊢
                split at hbehind
                next hcomma =>
                  obtain rfl := Option.some.inj hbehind
                  exact ⟨by rw [if_pos hcomma]; rfl, rfl⟩
                next hcomma =>
                  rw [if_neg hcomma]
                  exact over_close hbehind

theorem over_endNumber {stack : List Frame} {mode : Mode} {literal : NumberText} {later : State}
    (hend : State.endNumber ⟨stack, mode, false⟩ literal = some later) :
    State.endNumber ⟨stack ++ base, mode, false⟩ literal = some (later.over base) ∧
      later.skimming = false := by
  unfold State.endNumber at hend ⊢
  cases hvalue : literal.value? with
  | none => simp [hvalue] at hend
  | some n =>
      simp only [hvalue, Option.some.injEq] at hend ⊢
      obtain rfl := hend
      rw [over_deliver, deliver_eq]
      exact ⟨rfl, skimming_deliver _ _ _⟩

theorem over_endString {stack : List Frame} {mode : Mode} {isName : Bool} {part : StringText}
    {later : State} (hend : State.endString ⟨stack, mode, false⟩ isName part = some later) :
    State.endString ⟨stack ++ base, mode, false⟩ isName part = some (later.over base) ∧
      later.skimming = false := by
  unfold State.endString at hend ⊢
  split_ifs at hend ⊢
  · obtain rfl := Option.some.inj hend
    rw [over_deliver, deliver_eq]
    exact ⟨rfl, skimming_deliver _ _ _⟩
  · cases stack with
    | nil => cases hend
    | cons frame rest =>
        cases frame with
        | array before => cases hend
        | object before former =>
            obtain rfl := Option.some.inj hend
            exact ⟨rfl, rfl⟩

/-- Frames within which nothing is skimmed: they are not the outermost object alone, or the
member that is open there is known. -/
structure Minds (known : String → Bool) (base : List Frame) : Prop where
  ne_nil : base ≠ []
  known_of_single : ∀ before name, base = [.object before name] → known name = true

theorem skims_over (hminds : Minds known base) (stack : List Frame) (mode : Mode) :
    State.skims known ⟨stack ++ base, mode, false⟩ = false := by
  unfold State.skims
  split
  next before name hstack =>
    have hlength := congrArg List.length hstack
    rw [List.length_append, List.length_singleton] at hlength
    have hpositive := List.length_pos_iff.mpr hminds.ne_nil
    obtain rfl : stack = [] := List.eq_nil_of_length_eq_zero (by omega)
    rw [hminds.known_of_single before name hstack]
    rfl
  next => rfl

theorem over_step {st later : State} {c : Char} (hminds : Minds known base)
    (hstep : st.step (fun _ => true) c = some later) (hskim : st.skimming = false)
    (hdepth : later.height + base.length ≤ greatestDepth) :
    (st.over base).step known c = some (later.over base) ∧ later.skimming = false := by
  obtain ⟨stack, mode, skimming⟩ := st
  obtain rfl : skimming = false := hskim
  cases mode with
  | value closable =>
      simp only [State.step, State.over] at hstep ⊢
      split_ifs at hstep ⊢
      · obtain rfl := Option.some.inj hstep
        exact ⟨rfl, rfl⟩
      · exact over_close hstep
      · exact over_begin hstep hdepth
  | name closable =>
      simp only [State.step, State.over] at hstep ⊢
      split_ifs at hstep ⊢
      · obtain rfl := Option.some.inj hstep
        exact ⟨rfl, rfl⟩
      · obtain rfl := Option.some.inj hstep
        exact ⟨rfl, rfl⟩
      · exact over_close hstep
  | colon =>
      simp only [State.step, State.over] at hstep ⊢
      split_ifs at hstep ⊢
      · obtain rfl := Option.some.inj hstep
        exact ⟨rfl, rfl⟩
      · obtain rfl := Option.some.inj hstep
        have hstands : State.skims (fun _ => true) ⟨stack, .colon, false⟩ = false := by
          unfold State.skims
          split <;> rfl
        rw [skims_over hminds, hstands]
        exact ⟨rfl, rfl⟩
  | text isName part =>
      simp only [State.step, State.over] at hstep ⊢
      split_ifs at hstep ⊢
      · exact over_endString hstep
      · obtain ⟨next, hnext, rfl⟩ := Option.map_eq_some_iff.mp hstep
        exact ⟨by rw [hnext]; rfl, rfl⟩
  | word rest value =>
      show State.step known ⟨stack ++ base, .word rest value, false⟩ c = some (later.over base) ∧ _
      simp only [State.step] at hstep ⊢
      split at hstep
      · cases hstep
      · split_ifs at hstep ⊢
        obtain rfl := Option.some.inj hstep
        rw [over_deliver, deliver_eq]
        exact ⟨rfl, skimming_deliver _ _ _⟩
      · split_ifs at hstep ⊢
        obtain rfl := Option.some.inj hstep
        exact ⟨rfl, rfl⟩
  | number literal =>
      simp only [State.step, State.over] at hstep ⊢
      split at hstep
      · obtain rfl := Option.some.inj hstep
        exact ⟨rfl, rfl⟩
      · split_ifs at hstep ⊢
        obtain ⟨ended, hended, hbehind⟩ := Option.bind_eq_some_iff.mp hstep
        obtain ⟨hover, hended⟩ := over_endNumber hended
        rw [hover]
        exact over_behind hbehind hended
  | behind => exact over_behind hstep rfl
  | complete value =>
      obtain ⟨hbehind, hlater⟩ := over_behind hstep rfl
      exact ⟨(step_delivered base value c).trans hbehind, hlater⟩

theorem Reads.over {st later : State} {text : List Char} (hminds : Minds known base)
    (hreads : Reads (fun _ => true) st text later) (hskim : st.skimming = false)
    (hdepth : later.height + base.length ≤ greatestDepth) :
    Reads known (st.over base) text (later.over base) ∧ later.skimming = false := by
  induction text generalizing st with
  | nil =>
      obtain rfl := Option.some.inj hreads
      exact ⟨.nil _, hskim⟩
  | cons c rest ih =>
      unfold Reads at hreads
      rw [List.foldlM_cons, Option.bind_eq_bind, Option.bind_eq_some_iff] at hreads
      obtain ⟨next, hstep, hrest⟩ := hreads
      have hheight : next.height ≤ later.height := Reads.height_le hrest
      obtain ⟨hover, hnext⟩ := over_step hminds hstep hskim (by omega)
      obtain ⟨hlater, hended⟩ := ih hrest hnext
      exact ⟨.cons hover hlater, hended⟩

theorem hasRead_over {st : State} {value : Value} (hfinish : st.finish = .ok value)
    (hskim : st.skimming = false) : HasRead base value (st.over base) := by
  obtain ⟨stack, mode, skimming⟩ := st
  obtain rfl : skimming = false := hskim
  cases mode with
  | complete found =>
      obtain rfl := Except.ok.inj hfinish
      exact .behind found
  | number literal =>
      simp only [State.finish] at hfinish
      cases hcomplete : literal.isComplete with
      | false => simp [hcomplete] at hfinish
      | true =>
          cases hvalue : literal.value? with
          | none => simp [hcomplete, State.endNumber, hvalue] at hfinish
          | some n =>
              cases stack with
              | nil =>
                  obtain rfl : Value.number n = value := by
                    simpa [hcomplete, State.endNumber, hvalue, State.deliver] using hfinish
                  exact .number hcomplete hvalue
              | cons frame rest =>
                  cases frame <;>
                    simp [hcomplete, State.endNumber, hvalue, State.deliver] at hfinish
  | value | name | colon | text | word | behind => cases hfinish

/-- A text that is read as a value by itself is read as that value wherever a value may
stand, as long as there is room for its levels. -/
theorem readsValue_of_readKnowing {text : List Char} {value : Value} (hminds : Minds known base)
    (hread : readKnowing (fun _ => true) text = .ok value)
    (hdepth : value.depth + base.length ≤ greatestDepth) :
    ReadsValue known base false text value := by
  unfold readKnowing at hread
  cases hrun : text.foldlM (State.step fun _ => true) State.start with
  | none => simp [hrun, finish?] at hread
  | some st =>
      rw [hrun] at hread
      have hheight := height_le_of_finish hread
      obtain ⟨hover, hskim⟩ := Reads.over hminds hrun rfl (by omega)
      exact ⟨st.over base, hover, hasRead_over hread hskim⟩

/-- A value stays what it is as the only member of an object. -/
theorem readKnowing_member (name : String) {text : List Char} {value : Value}
    (hread : readKnowing (fun _ => true) text = .ok value) (hdepth : value.depth < greatestDepth) :
    readKnowing (fun _ => true) ('\x7b' :: quoted name.toList ++ ':' :: text ++ ['\x7d']) =
      .ok (.object [(name, value)]) := by
  have hvalue : ReadsValue (fun _ => true) [.object [] name] false text value :=
    readsValue_of_readKnowing ⟨by simp, fun _ _ _ => rfl⟩ hread hdepth
  have hclose : Reads (fun _ => true) ⟨[.object [(name, value)] name], .behind, false⟩ ['\x7d']
      (delivered [] (.object [(name, value)])) := .single (step_close_object _ _)
  have hmember := reads_member "" (fun _ => rfl) hvalue (by simp [Separates]) hclose
  have hquoted := Reads.cons (step_quote_name [] "" true) hmember
  have hwhole := Reads.cons (step_openObject false (by decide)) hquoted
  apply readKnowing_of_readsValue
  apply Reads.value
  simpa [quoted] using hwhole

end Reader

/-- A text that is nested at most so many levels, with members of one name counted as they
stand in it. -/
def NestsWithin (levels : Nat) (text : String) : Prop :=
  ∃ source, Reader.readKnowing (fun _ => true) text.toList = .ok source ∧ source.depth ≤ levels

theorem read_member (name : String) {text : String} {value : Value} {levels : Nat}
    (hread : readText text = .ok value) (hnests : NestsWithin levels text)
    (hlevels : levels < greatestDepth) :
    read ('\x7b' :: quoted name.toList ++ ':' :: text.toList ++ ['\x7d']) =
      .ok (.object [(name, value)]) := by
  obtain ⟨source, hsource, hdepth⟩ := hnests
  have hmember := Reader.readKnowing_member name hsource (by omega)
  obtain rfl : source.canonical = value := by
    simpa [readText, read, hsource, Except.map] using hread
  rw [read, hmember]
  rfl

end NodeLink.Json
