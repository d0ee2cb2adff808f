/-
# Between commands nothing is under way

The shell carries out one command after the other and waits for whatever a command started before
it takes the next.  So between commands no call is in flight, no slot waits, and no action can meet
a busy slot, whatever the commands before were and however their calls ended.

The argument has two halves.  What a command does to the assistant is made of the assistant's own
steps (`Reached`), so the books of calls balance; and every path through a command either makes no
call or ends with all calls answered and all outcomes applied (`Rests`).

Main statement: `commands_find_nothing_under_way`.
-/
import CodeAssistant.Proofs.Admission
import CodeAssistant.Shell.Loop

namespace CodeAssistant

/-! ## 1. Services -/

/-- A gateway with a memory: what it answers may depend on all that it was asked before. -/
structure Service (σ : Type) where
  answer : (c : Call) → StateM σ (Answer c.Response)
  health : StateM σ (Outcome HealthStatus)

namespace Service

variable {σ : Type}

/-- What the service would answer as things stand. -/
def gatewayAt (v : Service σ) (s : σ) : Gateway := fun c => ((v.answer c).run s).1

/-- Every call ends, one way or the other. -/
def Resolves (v : Service σ) : Prop := ∀ s, (v.gatewayAt s).Resolves

/-- Has every call of a list answered, each at the front of the running ones. -/
def answerAll (v : Service σ) (a : Assistant) : List Call → StateM σ Assistant
  | [] => pure a
  | call :: rest => do
    let answer ← v.answer call
    v.answerAll (a.arrive 0 ⟨call, answer.resolve call.slot.name⟩) rest

/-- The shell's host for a service. -/
def host (v : Service σ) : Shell.Host (StateM σ) where
  settle a := do return (← v.answerAll a a.running).drain.2
  health := v.health

end Service

namespace Assistant

/-! ## 2. Reached, and at rest -/

/-- A run in which every call that ends has an outcome comes to this state. -/
def Reached (a : Assistant) : Prop :=
  ∃ moves : List Move, (∀ m ∈ moves, m.Resolves) ∧ (Ledger.run moves).assistant = a

/-- A state that was reached, and nothing is under way in it. -/
structure Rests (a : Assistant) : Prop where
  reached : Reached a
  running : a.running = []
  arrived : a.arrived = []

variable {a b : Assistant}

theorem reached_start : Reached {} := ⟨[], by simp, rfl⟩

theorem Reached.move (h : Reached a) {m : Move} (hm : m.Resolves)
    (hb : ∀ l : Ledger, l.assistant = a → (l.move m).assistant = b) : Reached b := by
  obtain ⟨moves, hmoves, rfl⟩ := h
  refine ⟨moves ++ [m], fun m' hm' => ?_, ?_⟩
  · rcases List.mem_append.mp hm' with hm' | hm'
    · exact hmoves m' hm'
    · rwa [List.mem_singleton.mp hm']
  · rw [Ledger.run_append]
    exact hb _ rfl

theorem Reached.act (h : Reached a) (action : Action) : Reached (a.act action).2 := by
  refine h.move (m := .act action) trivial ?_
  rintro l rfl
  rcases hact : l.assistant.act action with ⟨_ | _ | _, b⟩ <;> simp only [Ledger.move, hact]

/-- The call at the front ends. -/
theorem Reached.arrive (h : Reached a) {g : Gateway} (hg : g.Resolves) {c : Call}
    {rest : List Call} (hr : a.running = c :: rest) : Reached (a.arrive 0 (.of g c)) := by
  refine h.move (m := .finish g 0) hg ?_
  rintro l rfl
  simp only [Ledger.move, finish, hr, List.getElem?_cons_zero]

theorem Reached.drain (h : Reached a) : Reached a.drain.2 := by
  refine h.move (m := .drain) trivial ?_
  rintro l rfl
  rfl

theorem Reached.exists_accounts (h : Reached a) : ∃ l, Accounts l ∧ l.assistant = a := by
  obtain ⟨moves, hmoves, rfl⟩ := h
  exact ⟨_, accounts_run hmoves, rfl⟩

/-- Applying outcomes leaves the calls that run and the queue alone. -/
theorem takeAll_queues : ∀ (xs : List Arrival) (a : Assistant),
    (a.takeAll xs).2.running = a.running ∧ (a.takeAll xs).2.arrived = a.arrived
  | [], _ => ⟨rfl, rfl⟩
  | x :: xs, a => by
    obtain ⟨hrunning, harrived⟩ := takeAll_queues xs (a.take x).2
    have htaken := taken_take a x
    exact ⟨hrunning.trans htaken.running, harrived.trans htaken.arrived⟩

/-- When all calls have ended and all outcomes are applied, nothing is under way. -/
theorem Reached.rests_drain (h : Reached a) (hr : a.running = []) : Rests a.drain.2 := by
  obtain ⟨hrunning, harrived⟩ := takeAll_queues a.arrived { a with arrived := [] }
  exact ⟨h.drain, hrunning.trans hr, harrived⟩

theorem rests_start : Rests {} := ⟨reached_start, rfl, rfl⟩

/-- An action that makes no call leaves nothing under way. -/
theorem Rests.act (h : Rests a) {action : Action} (hr : ∀ c, (a.act action).1 ≠ .started c) :
    Rests (a.act action).2 := by
  rcases act_cases a action with ⟨c, b, hact, -⟩ | ⟨-, hq⟩
  · exact absurd (congrArg Prod.fst hact) (hr c)
  · exact ⟨h.reached.act action, hq.same.running.trans h.running,
      hq.same.arrived.trans h.arrived⟩

section Rests

variable (h : Rests a)
include h

theorem Rests.inFlight_eq_zero : a.inFlight = 0 := by
  obtain ⟨l, hl, rfl⟩ := h.reached.exists_accounts
  rw [hl.counted, unapplied, h.running, h.arrived]
  rfl

theorem Rests.awaited_eq_none (slot : Slot) : a.awaited slot = none := by
  have h0 := h.inFlight_eq_zero
  obtain ⟨l, hl, rfl⟩ := h.reached.exists_accounts
  exact hl.awaited_eq_none h0 slot

theorem Rests.isBusy_eq_false : a.screen.isBusy = false := by
  have h0 := h.inFlight_eq_zero
  obtain ⟨l, hl, rfl⟩ := h.reached.exists_accounts
  by_contra hbusy
  have hpos := hl.inFlight_pos_of_isBusy (by simpa using hbusy)
  omega

/-- No action meets a busy slot. -/
theorem Rests.busy?_eq_none (action : Action) : a.busy? action = none := by
  unfold busy?
  split
  · rfl
  · rw [if_neg]
    simp [h.awaited_eq_none]

theorem Rests.not_busy (action : Action) (slot : Slot) :
    (a.act action).1 ≠ .rejected (.busy slot) := by
  intro hr
  have hbusy := busy?_of_obstacle? (rejected_iff.mp hr)
  rw [h.busy?_eq_none] at hbusy
  exact absurd hbusy (by simp)

end Rests

end Assistant

namespace Service

open Assistant

variable {σ : Type} {v : Service σ}

theorem reached_answerAll (hv : v.Resolves) : ∀ (calls : List Call) {a : Assistant} (s : σ),
    Reached a → a.running = calls →
      Reached ((v.answerAll a calls).run s).1 ∧ ((v.answerAll a calls).run s).1.running = []
  | [], _, _, h, hr => ⟨h, hr⟩
  | call :: rest, a, s, h, hr => by
    have hnext := h.arrive (hv s) hr
    exact reached_answerAll hv rest (a := a.arrive 0 (.of (v.gatewayAt s) call))
      ((v.answer call).run s).2 hnext (by simp [Assistant.arrive, hr])

/-- **Settling comes to rest.** -/
theorem rests_settle (hv : v.Resolves) {a : Assistant} (h : Reached a) (s : σ) :
    Rests ((v.host.settle a).run s).1 := by
  obtain ⟨hreached, hrunning⟩ := reached_answerAll hv a.running s h rfl
  exact hreached.rests_drain hrunning

end Service

namespace Shell

open Assistant

variable {σ : Type} {v : Service σ} {a : Assistant}

/-! ## 3. Commands -/

/-- The action that a command carries out. -/
def Command.action? (config : Config) (a : Assistant) : Command → Option Action
  | .ask question => some (.sendChat question)
  | .files directory => some (.loadListing (directoryOr config a directory))
  | .retry => some .retryListing
  | .openFile path => some (.selectFile path)
  | .debug request => some (.requestDebug request)
  | .plan request => some (.requestPlan request)
  | .index path => some (.triggerIndex path)
  | .stats => some .refreshIndexStats
  | .reset => some .resetSession
  | .health | .help | .quit | .usage _ | .unknown _ => none

/-- What becomes of the assistant and of the world when a command is carried out. -/
inductive Carries (host : Host (StateM σ)) (config : Config) (a : Assistant) (s : σ) :
    Command → Assistant × σ → Prop
  /-- All that the action started is waited for. -/
  | settled {command : Command} {action : Action} (h : command.action? config a = some action) :
      Carries host config a s command ((host.settle (a.act action).2).run s)
  /-- The action started nothing. -/
  | unsettled {command : Command} {action : Action} (h : command.action? config a = some action)
      (hr : ∀ c, (a.act action).1 ≠ .started c) :
      Carries host config a s command ((a.act action).2, s)
  | inquired : Carries host config a s .health (a, (host.health.run s).2)
  | idle {command : Command} (h : command.action? config a = none) (hne : command ≠ .health) :
      Carries host config a s command (a, s)

/-- The assistant and the world after a command. -/
def after (host : Host (StateM σ)) (config : Config) (a : Assistant) (command : Command) (s : σ) :
    Assistant × σ :=
  let r := (run host config a command).run s
  (r.1.2, r.2)

section Carries

variable {host : Host (StateM σ)} {config : Config} {s : σ} {command : Command} {action : Action}
  {b : Assistant}

theorem Carries.of_settled {reaction : Reaction} (h : command.action? config a = some action)
    (hact : a.act action = (reaction, b)) :
    Carries host config a s command ((host.settle b).run s) := by
  have hb : (a.act action).2 = b := congrArg Prod.snd hact
  rw [← hb]
  exact .settled h

theorem Carries.of_rejected {reason : Rejection} (h : command.action? config a = some action)
    (hact : a.act action = (.rejected reason, b)) : Carries host config a s command (b, s) := by
  have hb : (a.act action).2 = b := congrArg Prod.snd hact
  rw [← hb]
  exact .unsettled h (by simp [hact])

theorem carries_settleThen (h : command.action? config a = some action)
    (view : Assistant → String) :
    Carries host config a s command
      (((settleThen host a action view).run s).1.2, ((settleThen host a action view).run s).2) := by
  rcases hact : a.act action with ⟨_ | _ | _, b⟩ <;> simp only [settleThen, hact]
  · exact .of_settled h hact
  · exact .of_rejected h hact
  · exact .of_settled h hact

end Carries

theorem carries_run (host : Host (StateM σ)) (config : Config) (a : Assistant) (command : Command)
    (s : σ) : Carries host config a s command (after host config a command s) := by
  cases command with
  | index path =>
    have h : (Command.index path).action? config a = some (.triggerIndex path) := rfl
    -- a blank path is rejected, and settled all the same
    rcases hact : a.act (.triggerIndex path) with ⟨_ | ⟨_ | _ | _⟩ | _, b⟩ <;>
      simp only [after, run, hact]
    · exact .of_settled h hact
    · exact .of_rejected h hact
    · exact .of_settled h hact
    · exact .of_settled h hact
    · exact .of_settled h hact
  | reset => exact .unsettled rfl (by simp [act])
  | health => exact .inquired
  | help => exact .idle rfl (by simp)
  | quit => exact .idle rfl (by simp)
  | usage line => exact .idle rfl (by simp)
  | unknown name => exact .idle rfl (by simp)
  | _ =>
    simp only [after, run]
    exact carries_settleThen rfl _

theorem rests_after (hv : v.Resolves) (h : Rests a) (config : Config) (command : Command) (s : σ) :
    Rests (after v.host config a command s).1 := by
  have hc := carries_run v.host config a command s
  generalize after v.host config a command s = r at hc ⊢
  cases hc with
  | settled => exact Service.rests_settle hv (h.reached.act _) s
  | unsettled _ hr => exact h.act hr
  | inquired => exact h
  | idle => exact h

/-! ## 4. Runs of commands -/

/-- Carries out commands in order. -/
def runAll {m : Type → Type} [Monad m] (host : Host m) (config : Config) (a : Assistant)
    (commands : List Command) : m Assistant :=
  commands.foldlM (fun a command => do return (← run host config a command).2) a

theorem runAll_cons (host : Host (StateM σ)) (config : Config) (a : Assistant) (command : Command)
    (commands : List Command) (s : σ) :
    (runAll host config a (command :: commands)).run s =
      (runAll host config (after host config a command s).1 commands).run
        (after host config a command s).2 := by
  rw [runAll, List.foldlM_cons]
  rfl

theorem rests_runAll (hv : v.Resolves) (config : Config) : ∀ (commands : List Command)
    {a : Assistant} (s : σ), Rests a → Rests ((runAll v.host config a commands).run s).1
  | [], _, _, h => h
  | command :: commands, _, s, h => by
    rw [runAll_cons]
    exact rests_runAll hv config commands _ (rests_after hv h config command s)

/-- **Between commands nothing is under way**: after any commands, run from the start against a
service whose calls all end, no call is in flight, the screen is not busy, and no action whatever
finds its slot busy. -/
theorem commands_find_nothing_under_way {σ : Type} (v : Service σ) (hv : v.Resolves)
    (config : Config) (commands : List Command) (s : σ) :
    let a := ((runAll v.host config {} commands).run s).1
    a.inFlight = 0 ∧ a.screen.isBusy = false ∧
      ∀ action slot, (a.act action).1 ≠ .rejected (.busy slot) := by
  intro a
  have h : Rests a := rests_runAll hv config commands s rests_start
  exact ⟨h.inFlight_eq_zero, h.isBusy_eq_false, h.not_busy⟩

/-- The service breaks down over every other call and loses the rest; between them a conversation
is reset, a question and a path are blank, and the backend's health stays open. -/
theorem commands_find_nothing_under_way_unsteady :
    let v : Service Nat :=
      { answer := fun _ n =>
          (if n % 2 = 0 then .breakdown else .outcome (.failure ⟨.network, "lost"⟩), n + 1)
        health := fun n => (.pending, n) }
    let commands : List Command :=
      [.files none, .ask "why?", .reset, .ask " ", .index "", .health, .openFile "a", .stats]
    let r := (runAll v.host {} {} commands).run 0
    v.Resolves ∧ r.2 = 4 ∧ r.1.inFlight = 0 ∧ r.1.screen.isBusy = false ∧
      (r.1.act (.sendChat "and now?")).1 ≠ .rejected (.busy .chat) := by
  intro v commands r
  have hv : v.Resolves := by
    intro n c
    by_cases h : n % 2 = 0 <;>
      simp [v, Service.gatewayAt, StateT.run, Arrival.of, Answer.resolve, Outcome.isPending, h]
  obtain ⟨hflight, hbusy, hnever⟩ := commands_find_nothing_under_way v hv {} commands 0
  exact ⟨hv, by decide, hflight, hbusy, hnever _ _⟩

/-! ## 5. The client is such a service -/

section Client

variable (client : Client) (net : Http.Network (StateM σ))

/-- The service behind a client. -/
def serviceOf : Service σ where
  answer c := do return .outcome (.ofExcept (← client.call net c.slot.operation c.request))
  health := do return .ofExcept (← client.call net .health ())

theorem answerAll_serviceOf : ∀ (calls : List Call) (a : Assistant),
    answerAll client net a calls = (serviceOf client net).answerAll a calls
  | [], _ => rfl
  | call :: rest, a => by
    simp only [answerAll, Service.answerAll, serviceOf, bind_assoc, pure_bind, Answer.resolve]
    exact bind_congr fun result => answerAll_serviceOf rest _

/-- **The host that the program runs with** is the host of a service. -/
theorem clientHost_eq : clientHost client net = (serviceOf client net).host := by
  simp only [clientHost, Service.host, answerAll_serviceOf, serviceOf]

/-- Whatever the network does, a call through a client ends. -/
theorem resolves_serviceOf : (serviceOf client net).Resolves := by
  intro s c
  simp only [Service.gatewayAt, serviceOf, Arrival.of, StateT.run_bind, StateT.run_pure]
  generalize (client.call net c.slot.operation c.request).run s = r
  obtain ⟨_ | _, _⟩ := r <;> rfl

end Client

end Shell

end CodeAssistant
