import Mathlib.Data.List.Destutter
import MatrixFlow.Proofs.Run.Agreement

/-!
# A table of states under any requests

* `Board.Asked b a answer b'`: all that can come of asking the board `b` for `a`.
* `Board.values`, `Board.granted`: what an entry of the table has been, and what was granted for it.
* `Board.after_entry`: an entry is what was granted for it last, and all of it were legal moves.
* `Board.isStopped_after`: who has been told to stop.
* `Board.any_requests`: the table and the controls, whatever is asked.
* `Runs.exists_asks`: the tables of a run are among them.
-/

namespace MatrixFlow

namespace InstanceState

variable {s next : InstanceState}

theorem ne_of_canMoveTo (h : s.canMoveTo next = true) : s ≠ next := by
  rintro rfl
  cases s <;> cases h

theorem IsLifecycle.length_le {states : List InstanceState} (h : IsLifecycle states) :
    states.length ≤ 3 := by
  obtain ⟨last, -, h⟩ | h := h
  · exact h.length_le
  · exact h.length_le.trans (by decide)

end InstanceState

/-! ## One request -/

namespace Ask

/-- A group is told to stop, alone or with everything. -/
def stops (g : Nat) : Ask → Bool
  | state .. | own .. => false
  | stopGroup control => control.group == g
  | stopAll => true

theorem stops_of_wanted {a : Ask} {w : Nat × InstanceState} (h : a.wanted? = some w) (g : Nat) :
    a.stops g = false := by
  cases a with
  | state | own => rfl
  | stopGroup | stopAll => cases h

theorem any_stops {asks : List Ask} {g : Nat} : asks.any (·.stops g) = true ↔
    .stopAll ∈ asks ∨ ∃ c : Control, c.group = g ∧ .stopGroup c ∈ asks := by
  rw [List.any_eq_true]
  constructor
  · rintro ⟨a, ha, hstops⟩
    cases a with
    | state | own => cases hstops
    | stopGroup c => exact .inr ⟨c, beq_iff_eq.mp hstops, ha⟩
    | stopAll => exact .inl ha
  · rintro (h | ⟨c, hc, h⟩)
    · exact ⟨_, h, rfl⟩
    · exact ⟨_, h, beq_iff_eq.mpr hc⟩

end Ask

namespace Board

/-- What comes of asking a board: the answer, if a state is asked for, and the board behind it. -/
inductive Asked (b : Board) (a : Ask) : Option (Except TransitionError InstanceState) → Board → Prop
  /-- The move is legal. -/
  | granted {id : Nat} {current next : InstanceState} (hw : a.wanted? = some (id, next))
      (hid : b.table.get? id = some current) (hmove : current.canMoveTo next = true) :
      Asked b a (some (.ok current)) { b with table := ⟨b.table.states.set id next⟩ }
  /-- There is no such instance. -/
  | unknown {id : Nat} {next : InstanceState} (hw : a.wanted? = some (id, next))
      (hid : b.table.get? id = none) : Asked b a (some (.error (.unknownInstance id))) b
  /-- The move is not legal. -/
  | illegal {id : Nat} {current next : InstanceState} (hw : a.wanted? = some (id, next))
      (hid : b.table.get? id = some current) (hmove : current.canMoveTo next = false) :
      Asked b a (some (.error (.illegal id current next))) b
  /-- A group is told to stop. -/
  | stopGroup {control : Control} (ha : a = .stopGroup control) :
      Asked b a none { b with signals := b.signals.raise control.group }
  /-- Everything is told to stop. -/
  | stopAll (ha : a = .stopAll) : Asked b a none { b with signals := b.signals.raiseAll }

variable {b b' : Board} {a : Ask} {answer : Option (Except TransitionError InstanceState)}
  {id : Nat} {s next : InstanceState}

theorem ask_of_wanted (h : a.wanted? = some (id, next)) (b : Board) :
    b.ask a = (some (b.request id next).1, (b.request id next).2) := by
  cases a <;> cases h <;> rfl

theorem ask_asked (b : Board) (a : Ask) : b.Asked a (b.ask a).1 (b.ask a).2 := by
  cases hw : a.wanted? with
  | none =>
    cases a with
    | state | own => cases hw
    | stopGroup control => exact .stopGroup rfl
    | stopAll => exact .stopAll rfl
  | some w =>
    obtain ⟨id, next⟩ := w
    rw [ask_of_wanted hw]
    cases hid : b.table.get? id with
    | none => simpa [request, StatusTable.request, hid] using Asked.unknown hw hid
    | some current =>
      cases hmove : current.canMoveTo next with
      | true => simpa [request, StatusTable.request, hid, hmove] using Asked.granted hw hid hmove
      | false => simpa [request, StatusTable.request, hid, hmove] using Asked.illegal hw hid hmove

theorem get?_ofSize {n : Nat} (h : id < n) : (ofSize n).table.get? id = some .pending :=
  List.getElem?_replicate_of_lt h

/-- A request for a state is granted, and then it changes the own entry and nothing else, or it
changes nothing, and the error says why. -/
theorem Asked.wanted (h : b.Asked a answer b') (hw : a.wanted? = some (id, next)) :
    (∃ current, b.table.get? id = some current ∧ current.canMoveTo next = true ∧
      answer = some (.ok current) ∧ b'.table.get? id = some next ∧
      (∀ other ≠ id, b'.table.get? other = b.table.get? other) ∧ b'.signals = b.signals) ∨
    (b.table.get? id = none ∧ answer = some (.error (.unknownInstance id)) ∧ b' = b) ∨
    ∃ current, b.table.get? id = some current ∧ current.canMoveTo next = false ∧
      answer = some (.error (.illegal id current next)) ∧ b' = b := by
  cases h with
  | @granted id' current next' hw' hid hmove =>
    cases hw'.symm.trans hw
    obtain ⟨hlt, -⟩ := List.getElem?_eq_some_iff.mp hid
    exact .inl ⟨current, hid, hmove, rfl, List.getElem?_set_self hlt,
      fun other hother => List.getElem?_set_ne hother.symm, rfl⟩
  | unknown hw' hid =>
    cases hw'.symm.trans hw
    exact .inr (.inl ⟨hid, rfl, rfl⟩)
  | @illegal id' current next' hw' hid hmove =>
    cases hw'.symm.trans hw
    exact .inr (.inr ⟨current, hid, hmove, rfl, rfl⟩)
  | stopGroup ha | stopAll ha => subst ha; cases hw

theorem Asked.unwanted (h : b.Asked a answer b') (hw : a.wanted? = none) : b'.table = b.table := by
  cases h with
  | granted hw' | unknown hw' | illegal hw' => cases hw'.symm.trans hw
  | stopGroup | stopAll => rfl

theorem Asked.length (h : b.Asked a answer b') :
    b'.table.states.length = b.table.states.length := by
  cases h with
  | granted => exact List.length_set
  | unknown | illegal | stopGroup | stopAll => rfl

/-- The state for an instance that was granted by an answer. -/
def grantedTo (id : Nat) : Ask × Option (Except TransitionError InstanceState) →
    Option InstanceState
  | (a, some (.ok _)) => (a.wanted?.filter (·.1 == id)).map (·.2)
  | _ => none

/-- An entry becomes what is granted for it, and otherwise stays. -/
theorem Asked.entry (h : b.Asked a answer b') (hid : b.table.get? id = some s) :
    (∃ next, grantedTo id (a, answer) = some next ∧ s.canMoveTo next = true ∧
      b'.table.get? id = some next) ∨
    (grantedTo id (a, answer) = none ∧ b'.table.get? id = some s) := by
  cases h with
  | @granted id' current next hw hid' hmove =>
    by_cases heq : id' = id
    · subst heq
      obtain rfl : current = s := Option.some.inj (hid'.symm.trans hid)
      obtain ⟨hlt, -⟩ := List.getElem?_eq_some_iff.mp hid
      exact .inl ⟨next, by simp [grantedTo, hw], hmove, List.getElem?_set_self hlt⟩
    · exact .inr ⟨by simp [grantedTo, hw, heq], (List.getElem?_set_ne heq).trans hid⟩
  | unknown | illegal | stopGroup | stopAll => exact .inr ⟨rfl, hid⟩

/-- Nothing is granted for an instance that is not there. -/
theorem Asked.no_entry (h : b.Asked a answer b') (hid : b.table.get? id = none) :
    grantedTo id (a, answer) = none := by
  cases h with
  | @granted id' current next hw hid' hmove =>
    have hne : id' ≠ id := by
      rintro rfl
      cases hid'.symm.trans hid
    simp [grantedTo, hw, hne]
  | unknown | illegal | stopGroup | stopAll => rfl

theorem Asked.isRaised (h : b.Asked a answer b') (g : Nat) :
    b'.signals.isRaised g = (b.signals.isRaised g || a.stops g) := by
  cases h with
  | granted hw | unknown hw | illegal hw => rw [Ask.stops_of_wanted hw, Bool.or_false]
  | stopGroup ha => rw [ha, Signals.isRaised_raise, Ask.stops, Bool.beq_comm]
  | stopAll ha => rw [ha, Signals.isRaised_raiseAll, Ask.stops, Bool.or_true]

/-! ## Any number of requests -/

/-- What was asked, with the answers. -/
def log (b : Board) : List Ask → List (Ask × Option (Except TransitionError InstanceState))
  | [] => []
  | a :: asks => (a, (b.ask a).1) :: (b.ask a).2.log asks

/-- The states that were granted for an instance, in order. -/
def granted (b : Board) (id : Nat) (asks : List Ask) : List InstanceState :=
  (b.log asks).filterMap (grantedTo id)

/-- What the table says of an instance, at the start and after every request. -/
def values (b : Board) (id : Nat) (asks : List Ask) : List InstanceState :=
  (asks.scanl (fun b a => (b.ask a).2) b).filterMap (·.table.get? id)

theorem after_cons (b : Board) (a : Ask) (asks : List Ask) :
    b.after (a :: asks) = (b.ask a).2.after asks := rfl

theorem after_append (b : Board) (asks more : List Ask) :
    b.after (asks ++ more) = (b.after asks).after more := List.foldl_append

theorem granted_cons (b : Board) (id : Nat) (a : Ask) (asks : List Ask) :
    b.granted id (a :: asks) =
      (grantedTo id (a, (b.ask a).1)).toList ++ (b.ask a).2.granted id asks := by
  rw [granted, log, List.filterMap_cons]
  cases grantedTo id (a, (b.ask a).1) <;> rfl

theorem values_cons (hid : b.table.get? id = some s) (a : Ask) (asks : List Ask) :
    b.values id (a :: asks) = s :: (b.ask a).2.values id asks := by
  rw [values, List.scanl_cons, List.filterMap_cons, hid]
  rfl

theorem exists_values (hid : b.table.get? id = some s) (asks : List Ask) :
    ∃ rest, b.values id asks = s :: rest := by
  cases asks with
  | nil => exact ⟨[], by simp [values, hid]⟩
  | cons a asks => exact ⟨_, values_cons hid a asks⟩

theorem length_after (b : Board) (asks : List Ask) :
    (b.after asks).table.states.length = b.table.states.length := by
  induction asks generalizing b with
  | nil => rfl
  | cons a asks ih => rw [after_cons, ih, (ask_asked b a).length]

/-- What is granted for an instance are legal moves, one from the other, and the table says what
was granted last. -/
theorem after_entry (hid : b.table.get? id = some s) (asks : List Ask) :
    (s :: b.granted id asks).IsChain (fun s next => s.canMoveTo next = true) ∧
    (b.after asks).table.get? id = (s :: b.granted id asks).getLast? ∧
    (b.values id asks).destutter (· ≠ ·) = s :: b.granted id asks := by
  induction asks generalizing b s with
  | nil => exact ⟨.singleton s, hid, by simp [values, granted, log, hid]⟩
  | cons a asks ih =>
    rw [granted_cons, values_cons hid, after_cons]
    obtain ⟨next, hgrant, hmove, hnext⟩ | ⟨hgrant, hs⟩ := (ask_asked b a).entry hid
    · obtain ⟨hchain, hlast, hvalues⟩ := ih hnext
      obtain ⟨rest, hrest⟩ := exists_values hnext asks
      have hne : s ≠ next := InstanceState.ne_of_canMoveTo hmove
      rw [hgrant]
      refine ⟨hchain.cons_cons hmove, hlast, ?_⟩
      rw [hrest] at hvalues ⊢
      rw [List.destutter_cons_cons, if_pos hne]
      exact congrArg (s :: ·) hvalues
    · obtain ⟨hchain, hlast, hvalues⟩ := ih hs
      obtain ⟨rest, hrest⟩ := exists_values hs asks
      rw [hgrant]
      refine ⟨hchain, hlast, ?_⟩
      rw [hrest] at hvalues ⊢
      rw [List.destutter_cons_cons, if_neg (not_not_intro rfl)]
      exact hvalues

theorem granted_of_no_entry (hid : b.table.get? id = none) (asks : List Ask) :
    b.granted id asks = [] := by
  induction asks generalizing b with
  | nil => rfl
  | cons a asks ih =>
    have hlen := (ask_asked b a).length
    have hnext : (b.ask a).2.table.get? id = none := by
      rw [StatusTable.get?, List.getElem?_eq_none_iff] at hid ⊢
      rwa [hlen]
    rw [granted_cons, (ask_asked b a).no_entry hid, ih hnext]
    rfl

theorem after_terminal (hid : b.table.get? id = some s) (hs : s.isTerminal = true)
    (asks : List Ask) : (b.after asks).table.get? id = some s := by
  obtain ⟨hchain, hlast, -⟩ := after_entry hid asks
  rw [hlast, InstanceState.eq_nil_of_isTerminal hs hchain]
  rfl

theorem isRaised_after (b : Board) (g : Nat) (asks : List Ask) :
    (b.after asks).signals.isRaised g = (b.signals.isRaised g || asks.any (·.stops g)) := by
  induction asks generalizing b with
  | nil => exact (Bool.or_false _).symm
  | cons a asks ih =>
    rw [after_cons, ih, (ask_asked b a).isRaised, List.any_cons, Bool.or_assoc]

/-- Whatever is asked of a new table and of the groups around it: each entry is pending, then
running and then at an end, or pending and then cancelled, as far as it has come, so at most two
requests for an instance are granted and an end stays. A request that is granted changes its own
entry and nothing else, and its answer is the state before. A request that is not granted changes
nothing, and its error names the instance, the state that it has and the one that was wanted; it is
not granted if there is no such instance or the move is not legal. To stop instances changes no
entry. A control is stopped if and only if everything has been told to stop, or its group has, by
any control of the group. -/
theorem any_requests (n : Nat) (asks : List Ask) :
    let b := (ofSize n).after asks
    b.table.states.length = n ∧
    (∀ id < n,
      InstanceState.IsLifecycle (((ofSize n).values id asks).destutter (· ≠ ·)) ∧
      ((ofSize n).values id asks).destutter (· ≠ ·) = .pending :: (ofSize n).granted id asks) ∧
    (∀ id, ((ofSize n).granted id asks).length ≤ 2) ∧
    (∀ id s, b.table.get? id = some s → s.isTerminal = true →
      ∀ more, (b.after more).table.get? id = some s) ∧
    (∀ a id next, a.wanted? = some (id, next) →
      (∃ current, b.table.get? id = some current ∧ current.canMoveTo next = true ∧
        (b.ask a).1 = some (.ok current) ∧ (b.ask a).2.table.get? id = some next ∧
        (∀ other ≠ id, (b.ask a).2.table.get? other = b.table.get? other) ∧
        (b.ask a).2.signals = b.signals) ∨
      (b.table.get? id = none ∧
        (b.ask a).1 = some (.error (.unknownInstance id)) ∧ (b.ask a).2 = b) ∨
      ∃ current, b.table.get? id = some current ∧ current.canMoveTo next = false ∧
        (b.ask a).1 = some (.error (.illegal id current next)) ∧ (b.ask a).2 = b) ∧
    (∀ a, a.wanted? = none → (b.ask a).2.table = b.table) ∧
    ∀ c : Control, c.isStopped b.signals = true ↔
      .stopAll ∈ asks ∨ ∃ d : Control, d.group = c.group ∧ .stopGroup d ∈ asks := by
  intro b
  have hlife : ∀ id < n, InstanceState.IsLifecycle (.pending :: (ofSize n).granted id asks) :=
    fun id hid => InstanceState.isLifecycle_of_isChain (after_entry (get?_ofSize hid) asks).1
  refine ⟨?_, fun id hid => ?_, fun id => ?_, fun id s hid hs more => after_terminal hid hs more,
    fun a id next hw => (ask_asked b a).wanted hw, fun a hw => (ask_asked b a).unwanted hw,
    fun c => ?_⟩
  · rw [length_after]
    exact List.length_replicate
  · rw [(after_entry (get?_ofSize hid) asks).2.2]
    exact ⟨hlife id hid, rfl⟩
  · by_cases hid : id < n
    · exact Nat.le_of_succ_le_succ (hlife id hid).length_le
    · have hnone : (ofSize n).table.get? id = none := by
        rw [StatusTable.get?, List.getElem?_eq_none_iff]
        exact List.length_replicate.trans_le (Nat.le_of_not_lt hid)
      rw [granted_of_no_entry hnone]
      exact Nat.zero_le 2
  · rw [Control.isStopped, isRaised_after, ← Ask.any_stops]
    rfl

/-- An instance is not moved on from its end, and an instance that is not there is not moved. -/
example :
    let b := (ofSize 2).after [.state 0 .running, .own ⟨0, 0⟩ .succeeded]
    (b.ask (.state 0 .cancelled)).1 = some (.error (.illegal 0 .succeeded .cancelled)) ∧
    (b.ask (.state 5 .running)).1 = some (.error (.unknownInstance 5)) ∧
    b.table.states = [.succeeded, .pending] := by
  decide

end Board

/-! ## The tables of a run -/

namespace RunState

variable {services : Services} {s s' : RunState} {m : Move} {events : List Event} {k : Nat}

/-- What the instances of a job share. -/
def board? (s : RunState) (k : Nat) : Option Board :=
  (s.job? k).map fun run => ⟨run.table, s.signals⟩

theorem after_request (run : JobRun) (j : Nat) (a : Advance) (sig : Signals) :
    (⟨run.table, sig⟩ : Board).after (a.request.map (Ask.state j)).toList =
      ⟨(run.apply j a).table, sig⟩ := by
  cases hreq : a.request with
  | none => simp [Board.after, JobRun.apply, hreq]
  | some state =>
    simp only [Board.after, JobRun.apply, JobRun.request, hreq, Board.ask, Board.request,
      Option.map_some, Option.toList_some, List.foldl_cons, List.foldl_nil]
    cases run.table.request j state <;> rfl

/-- To one who looks at a job, a move is a request of a task, the word to stop, both or neither. -/
theorem perform_asks {b : Board} (h : s.perform services m = some (s', events))
    (hb : s.board? k = some b) : ∃ asks, s'.board? k = some (b.after asks) := by
  obtain ⟨run, hk, rfl⟩ := Option.map_eq_some_iff.mp hb
  obtain ⟨l, j, mv, r, t, a, rfl, hl, -, -, rfl, rfl⟩ | ⟨l, r, rfl, -, -, -, rfl, rfl⟩ |
    ⟨rfl, rfl, rfl⟩ := perform_cases h
  · have hword : ∀ run' : JobRun, ∃ asks,
        (⟨run'.table, s.signals⟩ : Board).after asks = ⟨run'.table, (s.apply l j r a).signals⟩ := by
      intro run'
      rw [signals_apply]
      split
      · exact ⟨[.stopGroup ⟨j, l⟩], rfl⟩
      · exact ⟨[], rfl⟩
    by_cases hkl : k = l
    · subst hkl
      rw [hk] at hl
      cases hl
      obtain ⟨word, hword⟩ := hword (run.apply j a)
      refine ⟨(a.request.map (Ask.state j)).toList ++ word, ?_⟩
      rw [board?, job?_apply_self hk, Board.after_append, after_request, hword]
      rfl
    · obtain ⟨word, hword⟩ := hword run
      refine ⟨word, ?_⟩
      rw [board?, job?_apply_ne hkl, hk, hword]
      rfl
  · refine ⟨[.stopGroup ⟨0, l⟩], ?_⟩
    exact congrArg (Option.map fun run => (⟨run.table, s.signals.raise l⟩ : Board)) hk
  · refine ⟨[.stopAll], ?_⟩
    exact congrArg (Option.map fun run => (⟨run.table, s.signals.raiseAll⟩ : Board)) hk

end RunState

/-- What the instances of a job share in a run is what comes of requests to a new table. -/
theorem Runs.exists_asks {ok : Services → RunState → Move → Prop} {plans : List JobPlan}
    {trace : List (Move × List Event)} {s : RunState} {k : Nat} {run : JobRun}
    (h : Runs ok (RunState.start plans) trace s) (hk : s.job? k = some run) :
    ∃ asks, (Board.ofSize run.tasks.length).after asks = ⟨run.table, s.signals⟩ := by
  obtain ⟨run₀, h₀, -, -, hinst⟩ := h.job?_start hk
  have hlen : run₀.tasks.length = run.tasks.length := by
    simpa using congrArg List.length hinst
  have hstart : (RunState.start plans).board? k = some (Board.ofSize run.tasks.length) := by
    rw [RunState.board?, h₀, ← hlen]
    obtain ⟨plan, is, -, -, -, rfl⟩ := RunState.job?_start h₀
    simp [JobRun.start, Board.ofSize, RunState.start]
  have hrun : ∃ asks, s.board? k = some ((Board.ofSize run.tasks.length).after asks) := by
    refine h.induction
      (P := fun a => ∃ asks, a.board? k = some ((Board.ofSize run.tasks.length).after asks))
      ⟨[], hstart⟩ ?_
    rintro - services a b m events - - hm ⟨asks, hasks⟩
    obtain ⟨more, hmore⟩ := RunState.perform_asks hm hasks
    exact ⟨asks ++ more, by rw [hmore, Board.after_append]⟩
  obtain ⟨asks, hasks⟩ := hrun
  rw [RunState.board?, hk] at hasks
  exact ⟨asks, (Option.some.inj hasks).symm⟩

end MatrixFlow
