/-
Shuffled machines: what becomes of a machine whose parts are in another order.

A machine is asked for its states and its events by name only, and for its rules
only by whether they have any complaint. Conditions and validators that change
nothing and find the same for two engines (`Rule.Agrees`) find the same complaints,
but for their order (`Engine.errorsOf_perm`). So if two machines differ in nothing
but order (`Machine.Shuffled`), and whoever is called cannot tell them apart
(`Engine.UsersAgree`), then every turn is alike (`Setting.take_alike_of_shuffled`).

The methods of a record are called too, where the engine uses its attributes
(`Engine.RecordAlike`). A plain record has none that could tell
(`Engine.recordAlike_of_seat`).
-/
import Lifecycle.Proofs.Parts
import Lifecycle.Proofs.Texts

namespace Lifecycle

open Run (Alike EndAlike)

/-- The runs go on in the same place, where `W` holds. -/
def Live.Same (W : Live → Prop) (l l' : Live) : Prop := l = l' ∧ W l

open Live (Same)

/-! ## Finding out -/

namespace Run

variable {α β : Type} {W : Live → Prop} {x y : Run α} {f g : α → Run β} {l : Live}

/-- A run finds an answer and leaves all as it is, unless it comes upon a number that is too long to
be written. -/
def Finds (x : Run α) (l : Live) : Prop :=
  (∃ a, x.run l = .ok a l) ∨ x.run l = .error (.fault .digitsExceeded) l

/-- One run finds something, and another finds the same. -/
def FindAlike (W : Live → Prop) (x y : Run α) : Prop :=
  ∀ l, W l → x.Finds l ∧ y.run l = x.run l

namespace FindAlike

theorem pure (a : α) : FindAlike W (pure a : Run α) (pure a) := fun _ _ => ⟨.inl ⟨a, rfl⟩, rfl⟩

theorem bind (hx : FindAlike W x y) (hf : ∀ a, FindAlike W (f a) (g a)) :
    FindAlike W (x >>= f) (y >>= g) := by
  intro l w
  obtain ⟨⟨a, found⟩ | stopped, same⟩ := hx l w
  · rw [found] at same
    rw [Finds, run_bind_ok found, run_bind_ok same]
    exact hf a l w
  · rw [stopped] at same
    rw [Finds, run_bind_error stopped, run_bind_error same]
    exact ⟨.inr rfl, rfl⟩

theorem ite {p : Prop} [Decidable p] {x' y' : Run α} (yes : FindAlike W x y)
    (no : FindAlike W x' y') : FindAlike W (if p then x else x') (if p then y else y') := by
  split
  · exact yes
  · exact no

end FindAlike

/-- Two runs that do the same where `W` holds, and keep it so. -/
theorem Alike.of_same (same : ∀ l, W l → y.run l = x.run l) (kept : ∀ l, W l → W (x.final l)) :
    Alike (Same W) x y := by
  rintro l _ ⟨rfl, w⟩
  rw [same l w]
  cases h : x.run l with
  | ok a m => exact .ok ⟨rfl, final_of_ok h ▸ kept l w⟩
  | error stop m => exact .error ⟨rfl, final_of_error h ▸ kept l w⟩

end Run

open Run (FindAlike)

/-! ## Rules in another order -/

/-- Two engines find out alike whether a condition holds: what it asks for changes nothing, and
cannot tell the two apart. -/
def Condition.Agrees (e e' : Engine) (W : Live → Prop) (event : Value) : Condition → Prop
  | .always => True
  | .callback c => FindAlike W (do e.host.truth (← c.call e.host [event]))
    (do e'.host.truth (← c.call e'.host [event]))
  | .scoped scope inner =>
    FindAlike W (do e.host.asState (← e.host.attr scope.column))
        (do e'.host.asState (← e'.host.attr scope.column))
      ∧ (scope.event.isState = false →
        FindAlike W (e.host.differ event scope.event) (e'.host.differ event scope.event))
      ∧ inner.Agrees e e' W event

/-- Two engines find out alike what a rule complains about. -/
structure Rule.Agrees (rule : Rule) (e e' : Engine) (W : Live → Prop) (event : Value) : Prop where
  condition : rule.condition.Agrees e e' W event
  validator : ∀ v, e.machine.registry.validator? rule.validator = .some v →
    FindAlike W (e.validate rule.args v) (e'.validate rule.args v)

namespace Engine

variable {e e' : Engine} {W : Live → Prop} {event : Value}

section Rules

variable (named : event.isState = true)
include named

theorem covered_findAlike {scope : Scope}
    (shown : FindAlike W (do e.host.asState (← e.host.attr scope.column))
      (do e'.host.asState (← e'.host.attr scope.column)))
    (compared : scope.event.isState = false →
      FindAlike W (e.host.differ event scope.event) (e'.host.differ event scope.event)) :
    FindAlike W (e.covered event scope) (e'.covered event scope) := by
  have compares : FindAlike W (e.host.differ event scope.event)
      (e'.host.differ event scope.event) := by
    cases state : scope.event.isState with
    | false => exact compared state
    | true =>
      intro l _
      rw [Run.Finds, Host.differ_run named state, Host.differ_run named state]
      exact ⟨.inl ⟨_, rfl⟩, rfl⟩
  have decided : FindAlike W
      (do
        let current ← (do e.host.asState (← e.host.attr scope.column))
        if !scope.isAt current then return false
        else if scope.event.isNull then return true
        else return !(← e.host.differ event scope.event))
      (do
        let current ← (do e'.host.asState (← e'.host.attr scope.column))
        if !scope.isAt current then return false
        else if scope.event.isNull then return true
        else return !(← e'.host.differ event scope.event)) :=
    shown.bind fun _ => .ite (.pure _) (.ite (.pure _) (compares.bind fun _ => .pure _))
  rwa [bind_assoc, bind_assoc] at decided

theorem holds_findAlike : ∀ {c : Condition}, c.Agrees e e' W event →
    FindAlike W (e.holds event c) (e'.holds event c)
  | .always, _ => .pure true
  | .callback _, h => h
  | .scoped _ _, ⟨shown, compared, inner⟩ =>
    (covered_findAlike named shown compared).bind fun _ =>
      .ite (holds_findAlike inner) (.pure false)

theorem ruleErrors_findAlike {rule : Rule}
    (validators : e'.machine.registry.validators = e.machine.registry.validators)
    (known : (e.machine.registry.validator? rule.validator).isSome = true)
    (h : rule.Agrees e e' W event) :
    FindAlike W (e.ruleErrors event rule) (e'.ruleErrors event rule) := by
  obtain ⟨v, found⟩ := Option.isSome_iff_exists.mp known
  have found' : e'.machine.registry.validator? rule.validator = .some v := by
    rw [Registry.validator?, validators]
    exact found
  refine (holds_findAlike named h.condition).bind fun _ => .ite ?_ (.pure [])
  rw [found, found']
  exact (h.validator v found).bind fun _ => .pure _

end Rules

/-! ### Complaints -/

section Complaints

variable {l : Live} {rules : List Rule}

/-- Where each rule finds its complaints, they are listed in the order of the rules. -/
theorem errorsOf_run {complaints : Rule → List Value}
    (found : ∀ rule ∈ rules, (e.ruleErrors event rule).run l = .ok (complaints rule) l) :
    (e.errorsOf event rules).run l = .ok (rules.flatMap complaints) l := by
  induction rules with
  | nil => rfl
  | cons rule rules ih =>
    have rest := ih fun r mem => found r (.tail _ mem)
    rw [errorsOf, Run.run_bind_ok (found rule (.head _)), Run.run_bind_ok rest]
    rfl

/-- And if one of them comes upon a number that is too long, so do all together. -/
theorem errorsOf_run_stops (finds : ∀ rule ∈ rules, (e.ruleErrors event rule).Finds l)
    (stops : ∃ rule ∈ rules,
      (e.ruleErrors event rule).run l = .error (.fault .digitsExceeded) l) :
    (e.errorsOf event rules).run l = .error (.fault .digitsExceeded) l := by
  induction rules with
  | nil =>
    obtain ⟨_, mem, -⟩ := stops
    cases mem
  | cons rule rules ih =>
    rw [errorsOf]
    obtain ⟨a, found⟩ | stopped := finds rule (.head _)
    · have later : ∃ r ∈ rules,
          (e.ruleErrors event r).run l = .error (.fault .digitsExceeded) l := by
        obtain ⟨r, mem, stopped⟩ := stops
        rcases List.mem_cons.mp mem with rfl | mem
        · cases found.symm.trans stopped
        · exact ⟨r, mem, stopped⟩
      rw [Run.run_bind_ok found, Run.run_bind_error (ih (fun r mem => finds r (.tail _ mem)) later)]
    · rw [Run.run_bind_error stopped]

/-- In another order the rules complain about the same, in another order. -/
theorem errorsOf_perm {rules' : List Rule} (perm : rules.Perm rules')
    (alike : ∀ rule ∈ rules, (e.ruleErrors event rule).Finds l
      ∧ (e'.ruleErrors event rule).run l = (e.ruleErrors event rule).run l) :
    (∃ vs vs', (e.errorsOf event rules).run l = .ok vs l
        ∧ (e'.errorsOf event rules').run l = .ok vs' l ∧ vs.Perm vs')
      ∨ ((e.errorsOf event rules).run l = .error (.fault .digitsExceeded) l
        ∧ (e'.errorsOf event rules').run l = .error (.fault .digitsExceeded) l) := by
  by_cases stops : ∃ rule ∈ rules,
      (e.ruleErrors event rule).run l = .error (.fault .digitsExceeded) l
  · right
    refine ⟨errorsOf_run_stops (fun rule mem => (alike rule mem).1) stops,
      errorsOf_run_stops (fun rule mem => ?_) ?_⟩
    · obtain ⟨finds, same⟩ := alike rule (perm.mem_iff.mpr mem)
      rwa [Run.Finds, same]
    · obtain ⟨rule, mem, stopped⟩ := stops
      exact ⟨rule, perm.mem_iff.mp mem, (alike rule mem).2.trans stopped⟩
  · left
    have answers : ∀ rule ∈ rules, ∃ vs, (e.ruleErrors event rule).run l = .ok vs l :=
      fun rule mem => (alike rule mem).1.resolve_right fun stopped => stops ⟨rule, mem, stopped⟩
    choose! complaints found using answers
    have found' : ∀ rule ∈ rules', (e'.ruleErrors event rule).run l = .ok (complaints rule) l := by
      intro rule mem
      have mem := perm.mem_iff.mpr mem
      exact (alike rule mem).2.trans (found rule mem)
    exact ⟨_, _, errorsOf_run found, errorsOf_run found', perm.flatMap_right complaints⟩

end Complaints

end Engine

/-! ## Using the record -/

/-- The attributes that an engine reads on its own. -/
def Machine.Uses (m : Machine) (name : Value) : Prop :=
  name = m.config.column ∨ ∃ field, m.Writes field ∧ name = .str field

namespace Engine

/-- What an engine writes: states, what it puts back into the column, and stamps. -/
inductive Puts (e : Engine) (W : Live → Prop) : Value → Value → Prop where
  | shown {s : State} (hs : s ∈ e.machine.states) : Puts e W e.machine.config.column (.str s.name)
  | remembered {s : State} (hs : s ∈ e.machine.states) :
    Puts e W (.str committedAttribute) (.str s.name)
  | restored {l l' : Live} {v : Value} (w : W l) (held : e.committed.run l = .ok v l') :
    Puts e W e.machine.config.column v
  | stamped {s : State} (hs : s ∈ e.machine.states) {field : String} (hf : field ∈ s.stampFields)
    (v : Value) : Puts e W (.str field) v

/-- Two engines use the record alike: what its classes have for that cannot tell the two apart, and
they keep to a world that the clock does not matter to. -/
structure RecordAlike (e e' : Engine) (W : Live → Prop) : Prop where
  ticked : ∀ {l} reads, W l → W { l with reads }
  reads : ∀ name, e.machine.Uses name → Alike (Same W) (e.host.attr name) (e'.host.attr name)
  has : ∀ name, e.machine.Uses name → Alike (Same W) (e.host.hasAttr name) (e'.host.hasAttr name)
  requires : ∀ name, e.machine.Uses name →
    Alike (Same W) (e.host.require name) (e'.host.require name)
  sets : ∀ {name v}, e.Puts W name v →
    Alike (Same W) (e.host.setAttr name v) (e'.host.setAttr name v)
  texts : ∀ v, Alike (Same W) (e.host.asState v) (e'.host.asState v)
  /-- What the column shows is compared with what was committed. -/
  compares : ∀ {l l' v w}, W l → e.committed.run l = .ok w l' → v.isState = true →
    Alike (Same W) (e.host.differ v w) (e'.host.differ v w)
  passes : ∀ {act act' : Run Unit}, Alike (Same W) act act' →
    Alike (Same W) (e.host.passing act) (e'.host.passing act')

variable {e e' : Engine} {W : Live → Prop}

section Record

variable (record : e.RecordAlike e' W) (config : e.machine.config = e'.machine.config)
include record

include config in
theorem currentState_alike_same : Alike (Same W) e.currentState e'.currentState := by
  rw [currentState, currentState, ← config]
  exact (record.reads _ (.inl rfl)).bind fun v => record.texts v

include config in
theorem stamp_alike_same (clock : e'.clock = e.clock) (field : Value) :
    Alike (Same W) (e.stamp field) (e'.stamp field) := by
  refine .of_same (fun l _ => ?_) fun l w => ?_
  · rw [stamp, stamp, clock, ← config]
  · rw [stamp, Run.final_bind_ok (Run.run_get l)]
    split
    · exact w
    · exact record.ticked _ w

include config in
theorem rollback_alike_same (silent : e.watched = false) (silent' : e'.watched = false) :
    Alike (Same W) e.rollback e'.rollback := by
  have uses : e.machine.Uses (.str committedAttribute) := .inr ⟨_, .inl rfl, rfl⟩
  have back : Alike (Same W)
      (do
        let committed ← e.committed
        let current ← e.currentState
        if ← e.host.differ current committed then
          e.host.setAttr e.machine.config.column committed
        else pure ())
      (do
        let committed ← e'.committed
        let current ← e'.currentState
        if ← e'.host.differ current committed then
          e'.host.setAttr e.machine.config.column committed
        else pure ()) := by
    rintro l _ ⟨rfl, w⟩
    refine (record.reads _ uses l l ⟨rfl, w⟩).bind_of fun v m held => ?_
    refine (currentState_alike_same record config).bind_of fun _ u _ read => ?_
    have state := isState_of_currentState read
    exact (record.compares w held state).bind fun _ =>
      .ite (record.sets (.restored w held)) (.pure ())
  rw [rollback, rollback, watch, watch, silent, silent', ← config]
  exact (Alike.pure ()).bind fun _ => (record.has _ uses).bind fun _ => .ite back (.pure ())

include config in
/-- Whatever an engine does on its own is made of that. -/
theorem stepsAlike_of_record (clock : e'.clock = e.clock) (silent : e.watched = false)
    (silent' : e'.watched = false) : e.StepsAlike (Same W) e' where
  config
  watches entry := by
    rw [watch, watch, silent, silent']
    exact .pure ()
  reads := currentState_alike_same record config
  shows _ hs := record.sets (.shown hs)
  remembers _ hs := record.sets (.remembered hs)
  sets _ hs _ hf v := record.sets (.stamped hs hf v)
  has s hs field hf := record.has _ (.inr ⟨field, .inr (.inr ⟨s, hs, hf⟩), rfl⟩)
  lacks s hs field hf :=
    (record.requires _ (.inr ⟨field, .inr (.inr ⟨s, hs, hf⟩), rfl⟩)).bind fun _ => .pure _
  ticks field := stamp_alike_same record config clock _
  rollbacks := rollback_alike_same record config silent silent'
  notifies _ _ _ heeded := record.passes heeded

end Record

/-! ## Whoever is called -/

/-- Whoever two engines call cannot tell them apart, and the record has no check of its own. -/
structure UsersAgree (e e' : Engine) (W : Live → Prop) : Prop where
  record : e.RecordAlike e' W
  unchecked : ∀ l, W l → (e.host.attr (.str checkAttribute)).run l = .ok .null l
    ∧ (e'.host.attr (.str checkAttribute)).run l = .ok .null l
  rules : ∀ ev ∈ e.machine.events, ∀ rule ∈ e.machine.registry.rules,
    rule.Agrees e e' W (.str ev.name)
  guards : ∀ ev ∈ e.machine.events, ∀ g ∈ ev.guards, Alike (Same W)
    (do e.host.truth (← e.runAction (.str ev.name) g))
    (do e'.host.truth (← e'.runAction (.str ev.name) g))
  acts : ∀ event, ∀ s ∈ e.machine.states, ∀ a ∈ s.enter.toList ++ (s.after ++ s.exit.toList),
    Alike (Same W) (e.runAction event a) (e'.runAction event a)
  observers : ∀ args, (∀ v ∈ args, v.isState = true) → ∀ o ∈ e.machine.observers,
    Alike (Same W) (e.heed args o) (e'.heed args o)

section Users

variable (shuffled : e.machine.Shuffled e'.machine) (users : e.UsersAgree e' W)
include shuffled users

/-- Both machines have the same complaints but for their order. -/
theorem errors_perm {ev : Event} (hev : ev ∈ e.machine.events) {l : Live} (w : W l) :
    (∃ vs vs', (e.errors (.str ev.name)).run l = .ok vs l
        ∧ (e'.errors (.str ev.name)).run l = .ok vs' l ∧ vs.Perm vs')
      ∨ ((e.errors (.str ev.name)).run l = .error (.fault .digitsExceeded) l
        ∧ (e'.errors (.str ev.name)).run l = .error (.fault .digitsExceeded) l) :=
  errorsOf_perm shuffled.rules fun rule mem =>
    ruleErrors_findAlike rfl shuffled.validators (shuffled.known rule mem)
      (users.rules ev hev rule mem) l w

/-- So the record is valid for both or for neither. -/
theorem check_alike_same {ev : Event} (hev : ev ∈ e.machine.events) :
    Alike (Same W) (e.check (.str ev.name)) (e'.check (.str ev.name)) := by
  rintro l _ ⟨rfl, w⟩
  obtain ⟨null, null'⟩ := users.unchecked l w
  have isNull : Value.null.isNull = true := rfl
  rw [check_eq, check_eq, Run.run_bind_ok null, Run.run_bind_ok null', if_pos isNull, if_pos isNull]
  obtain ⟨vs, vs', found, found', perm⟩ | ⟨stopped, stopped'⟩ := errors_perm shuffled users hev w
  · rw [Run.run_bind_ok found, Run.run_bind_ok found', perm.isEmpty_eq]
    exact .ok ⟨rfl, w⟩
  · rw [Run.run_bind_error stopped, Run.run_bind_error stopped']
    exact .error ⟨rfl, w⟩

theorem usersAlike_of_agree : e.UsersAlike (Same W) e' where
  checks _ hev := check_alike_same shuffled users hev
  guards := users.guards
  acts := users.acts
  observers := users.observers

end Users

end Engine

/-! ## Plain records -/

namespace Host

open Run (Alike EndAlike)

/-- Two runs begin and end at one given place. -/
abbrev At (l : Live) : Live → Live → Prop := fun k k' => k = l ∧ k' = l

variable {h h' : Host} {l : Live}

theorem get_alike : Alike (At l) (get : Run Live) get := by
  rintro _ _ ⟨rfl, rfl⟩
  exact .ok ⟨rfl, rfl⟩

theorem ask_alike {name : String} (hm : l.Mute name) (v : Value) (args : List Value) :
    Alike (At l) (h.ask name v args) (h'.ask name v args) := by
  rintro _ _ ⟨rfl, rfl⟩
  rw [ask_run hm, ask_run hm]
  exact .ok ⟨rfl, rfl⟩

/-- Where no record is written in its own way, it does not matter which host writes a value. -/
theorem spell_alike (mute : l.Mute "__repr__") :
    ∀ v, Alike (At l) (h.spell v) (h'.spell v)
  | .int n => by
    rw [spell, spell]
    exact .ite (.fail _) (.pure _)
  | .record id => by
    rw [spell, spell]
    refine (ask_alike mute _ _).bind fun answer => ?_
    cases answer with
    | none => exact .pure _
    | some w => cases w <;> first | exact .pure _ | exact .fail _
  | .cls id => by
    rw [spell, spell]
    exact get_alike.bind fun _ => .pure _
  | .routine owner name layers => by
    rw [spell, spell]
    split <;> exact .pure _
  | .method of owner name layers => by
    rw [spell, spell]
    refine .ite (.pure _) ((spell_alike mute of).bind fun shown => get_alike.bind fun k => ?_)
    dsimp only
    split <;> exact .pure _
  | .transition source target guard => by
    rw [spell, spell]
    refine (spell_alike mute source).bind fun _ => (spell_alike mute target).bind fun _ => ?_
    exact (spell_alike mute guard).bind fun _ => .pure _
  | .list items => by
    rw [spell, spell]
    exact (spellAll_alike mute items).bind fun _ => .pure _
  | .tuple items => by
    rw [spell, spell]
    exact (spellAll_alike mute items).bind fun _ => .pure _
  | .obj entries => by
    rw [spell, spell]
    exact (spellEntries_alike mute entries).bind fun _ => .pure _
  | .null | .bool _ | .decimal _ _ | .str _ | .shared _ _ | .listAt _ | .walker _ _ | .moment _
  | .day _ | .machine _ | .function | .sealed _ | .undecided | .textOf _ | .verbatim _ => by
    rw [spell, spell] <;> first | exact .pure _ | simp
where
  spellAll_alike (mute : l.Mute "__repr__") :
      ∀ vs, Alike (At l) (h.spellAll vs) (h'.spellAll vs)
    | [] => .pure _
    | v :: vs => by
      rw [spellAll, spellAll]
      exact (spell_alike mute v).bind fun _ => (spellAll_alike mute vs).bind fun _ => .pure _
  spellEntries_alike (mute : l.Mute "__repr__") :
      ∀ es, Alike (At l) (h.spellEntries es) (h'.spellEntries es)
    | [] => .pure _
    | (name, v) :: es => by
      rw [spellEntries, spellEntries]
      exact (spell_alike mute v).bind fun _ => (spellEntries_alike mute es).bind fun _ => .pure _

/-- In a quiet world a column shows the same to all hosts. -/
theorem asState_hostless (h h' : Host) (hq : l.Quiet) (v : Value) :
    (h.asState v).run l = (h'.asState v).run l := by
  have alike : Alike (At l) (h.asState v) (h'.asState v) := by
    rw [asState, asState]
    refine .ite (.pure _) ?_
    rw [asText, asText]
    refine (ask_alike hq.shown _ _).bind fun answer => ?_
    cases answer with
    | some w => cases w <;> first | exact .pure _ | exact .fail _
    | none =>
      refine (ask_alike hq.written _ _).bind fun answer => ?_
      cases answer with
      | some w => cases w <;> first | exact .pure _ | exact .fail _
      | none =>
        have settled : Alike (At l) (Run.settle v) (Run.settle v) :=
          get_alike.bind fun _ => .pure _
        exact (settled.bind fun w => spell_alike hq.written w).bind fun _ => .pure _
  have ended := alike l l ⟨rfl, rfl⟩
  generalize (h.asState v).run l = r, (h'.asState v).run l = r' at ended
  cases ended with
  | ok at_ => rw [at_.1, at_.2]
  | error at_ => rw [at_.1, at_.2]

end Host


namespace Engine

variable {e : Engine} {W : Live → Prop} {id : RecordId} {column : String}
  (seat : Live.Seat W e.machine id column)
include seat

/-- What stands in the column is shown to all engines. -/
theorem shown_findAlike (quiet : ∀ {l}, W l → l.Quiet) (e' : Engine) :
    FindAlike W (do e.host.asState (← e.host.attr (.str column)))
      (do e'.host.asState (← e'.host.attr (.str column))) := by
  intro l w
  have read (h : Host) := Host.attr_run_ordinary (h := h) (seat.plain w) (seat.own w)
  rw [Run.Finds, Run.run_bind_ok (read e.host), Run.run_bind_ok (read e'.host)]
  refine ⟨?_, Host.asState_hostless _ _ (quiet w) _⟩
  have written := Host.asState_behaves (h := e.host) (W := (· = l)) (fun at_ => at_ ▸ quiet w)
    ((l.value? id column).getD .null) l rfl
  rw [Run.Ends] at written
  cases h : (e.host.asState ((l.value? id column).getD .null)).run l with
  | ok v m =>
    rw [h] at written
    obtain rfl := written.world
    exact .inl ⟨v, rfl⟩
  | error stop m =>
    rw [h] at written
    obtain rfl := written.world
    obtain rfl : stop = .fault .digitsExceeded := written.stops
    exact .inr rfl

/-- What an engine reads on its own are fields of the record. -/
theorem field_of_uses {name : Value} (uses : e.machine.Uses name) :
    ∃ field, e.machine.Writes field ∧ name = .str field := by
  rcases uses with rfl | known
  · exact ⟨column, .inr (.inl seat.held), seat.held⟩
  · exact known

variable (clean : ∀ {l v}, W l → l.value? id committedAttribute = .some v → v.isState = true)

include clean in
theorem isState_of_committed {l l' : Live} {v : Value} (w : W l)
    (held : e.committed.run l = .ok v l') : v.isState = true := by
  have read := Host.attr_run_ordinary (h := e.host) (seat.plain w) (seat.ordinary (.inl rfl) w)
  cases read.symm.trans held
  cases h : l.value? id committedAttribute with
  | none => rfl
  | some v => exact clean w h

include clean in
/-- What an engine writes goes into fields of the record, and only states are remembered. -/
theorem field_of_puts {name v : Value} (puts : e.Puts W name v) :
    ∃ field, e.machine.Writes field ∧ (field = committedAttribute → v.isState = true)
      ∧ name = .str field := by
  cases puts with
  | shown hs => exact ⟨column, .inr (.inl seat.held), fun _ => rfl, seat.held⟩
  | remembered hs => exact ⟨_, .inl rfl, fun _ => rfl, rfl⟩
  | restored w held =>
    exact ⟨column, .inr (.inl seat.held), fun _ => isState_of_committed seat clean w held, seat.held⟩
  | stamped hs hf =>
    exact ⟨_, .inr (.inr ⟨_, hs, hf⟩),
      fun same => absurd same (State.stampField_ne_committed hf), rfl⟩

section Fields

variable {field : String} (writes : e.machine.Writes field) (h h' : Host)
include writes

theorem attr_alike_same : Alike (Same W) (h.attr (.str field)) (h'.attr (.str field)) := by
  have read (h : Host) {l : Live} (w : W l) :=
    Host.attr_run_ordinary (h := h) (seat.plain w) (seat.ordinary writes w)
  refine .of_same (fun l w => ?_) fun l w => ?_
  · rw [read, read] <;> exact w
  · rwa [Run.final_of_ok (read h w)]

theorem hasAttr_alike_same : Alike (Same W) (h.hasAttr (.str field)) (h'.hasAttr (.str field)) := by
  have asked (h : Host) {l : Live} (w : W l) :=
    Host.hasAttr_run_ordinary (h := h) (seat.plain w) (seat.ordinary writes w)
  refine .of_same (fun l w => ?_) fun l w => ?_
  · rw [asked, asked] <;> exact w
  · rwa [Run.final_of_ok (asked h w)]

theorem require_alike_same : Alike (Same W) (h.require (.str field)) (h'.require (.str field)) := by
  have required (h : Host) {l : Live} (w : W l) :=
    Host.require_run_ordinary (h := h) (seat.plain w) (seat.ordinary writes w)
  refine .of_same (fun l w => ?_) fun l w => ?_
  · rw [required, required] <;> exact w
  · rw [Run.final, required h w]
    cases l.value? id field <;> exact w

/-- A field is written for all, or refused to all. -/
theorem setAttr_alike_same {v : Value} (fits : field = committedAttribute → v.isState = true) :
    Alike (Same W) (h.setAttr (.str field) v) (h'.setAttr (.str field) v) := by
  rintro l _ ⟨rfl, w⟩
  by_cases ho : l.IsOpen id field
  · rw [Host.setAttr_run_open (seat.plain w) ho, Host.setAttr_run_open (seat.plain w) ho]
    exact .ok ⟨rfl, seat.written v w writes fits ho⟩
  · have ordinary := seat.ordinary writes w
    obtain ⟨f, hf, refused⟩ := Host.setAttr_run_refused (h := h) (seat.plain w) ordinary ho v
    obtain ⟨f', hf', refused'⟩ := Host.setAttr_run_refused (h := h') (seat.plain w) ordinary ho v
    cases hf.symm.trans hf'
    rw [refused, refused']
    exact .error ⟨rfl, w⟩

end Fields

include clean in
/-- All engines use a plain record alike where nobody has a say in how values are written, and what
is committed is always a state. -/
theorem recordAlike_of_seat (quiet : ∀ {l}, W l → l.Quiet) (e' : Engine) : e.RecordAlike e' W where
  ticked := seat.ticked
  reads name uses := by
    obtain ⟨field, writes, rfl⟩ := field_of_uses seat uses
    exact attr_alike_same seat writes e.host e'.host
  has name uses := by
    obtain ⟨field, writes, rfl⟩ := field_of_uses seat uses
    exact hasAttr_alike_same seat writes e.host e'.host
  requires name uses := by
    obtain ⟨field, writes, rfl⟩ := field_of_uses seat uses
    exact require_alike_same seat writes e.host e'.host
  sets puts := by
    obtain ⟨field, writes, fits, rfl⟩ := field_of_puts seat clean puts
    exact setAttr_alike_same seat writes e.host e'.host fits
  texts v := .of_same (fun l w => Host.asState_hostless _ _ (quiet w) v) fun l w => by
    rwa [Host.asState_idle (quiet w) v]
  compares w held state := by
    have committed := isState_of_committed seat clean w held
    refine .of_same (fun m _ => ?_) fun m wm => ?_
    · rw [Host.differ_run state committed, Host.differ_run state committed]
    · rwa [Run.final_of_ok (Host.differ_run state committed)]
  passes alike := by
    rintro l _ ⟨rfl, w⟩
    rw [Host.passing_run (seat.lasting w), Host.passing_run (seat.lasting w)]
    exact alike l l ⟨rfl, w⟩

end Engine

/-! ## Turns -/

/-- Two machines that differ in nothing but order do the same, however deep user code nests the
turns that it asks for. -/
theorem Setting.take_alike_of_shuffled {m m' : Machine} (shuffled : m.Shuffled m') {s s' : Setting}
    (clock : s'.clockOf = s.clockOf) {W : Live → Prop}
    (users : ∀ n, (∀ k < n, ∀ t, Alike (Same W) ((s.engineAt m k).take t)
      ((s'.engineAt m' k).take t)) → (s.engineAt m n).UsersAgree (s'.engineAt m' n) W) (n : Nat) :
    ∀ t, Alike (Same W) ((s.engineAt m n).take t) ((s'.engineAt m' n).take t) := by
  refine take_alike_of_before shuffled.agrees (fun n before => ?_) n
  have agree := users n before
  have steps := Engine.stepsAlike_of_record agree.record shuffled.agrees.config
    (congrFun clock .none) rfl rfl
  exact ⟨steps.ownAlike, Engine.usersAlike_of_agree shuffled agree⟩

end Lifecycle
