/-
What no run undoes: a run ends on the value that it was on, and what is in the log
stays there.

`Run.Steady` says this of one run. It passes from the parts of a run to the whole
(`Steady.bind`, `Steady.tryCatch`, `Steady.as`), so here it is shown, in the order of
the definitions, of each thing that a host does by itself, for hosts that answer
requests so (`Host.IsSteady`).
-/
import Lifecycle.Host
import Lifecycle.Proofs.Ends

namespace Lifecycle

open Run (Keeps)

/-- One live is before another: both are on the same value, and the log has only grown. -/
structure Live.Onward (l l' : Live) : Prop where
  self : l'.self = l.self
  log : l.log <+: l'.log

instance : IsPreorder Live Live.Onward where
  refl _ := ⟨rfl, List.prefix_rfl⟩
  trans _ _ _ h₁ h₂ := ⟨h₂.self.trans h₁.self, h₁.log.trans h₂.log⟩

namespace Run

/-- Wherever a run begins, it ends on the same value and with all that was in the log. -/
def Steady {α : Type} (c : Run α) : Prop := Keeps Live.Onward c

namespace Steady

variable {α β : Type} {x : Run α} {f : α → Run β}

@[grind ←] theorem bind (hx : Steady x) (hf : ∀ a, Steady (f a)) : Steady (x >>= f) :=
  Keeps.bind hx hf

@[grind ←] theorem pure (a : α) : Steady (pure a : Run α) := Keeps.pure a

@[grind ←] theorem throw (s : Stop) : Steady (throw s : Run α) := Keeps.throw s

@[grind ←] theorem fail (f : Fault) : Steady (Run.fail f : Run α) := Keeps.fail f

@[grind ←] theorem lift (r : Except Fault α) : Steady (Run.lift r) := Keeps.lift r

@[grind ←] theorem liftStop (r : Except Stop α) : Steady (Run.liftStop r) := by
  cases r with
  | ok a => exact pure a
  | error s => exact throw s

@[grind ←] theorem tryCatch {handler : Stop → Run α} (hx : Steady x)
    (hh : ∀ s, Steady (handler s)) : Steady (tryCatch x handler) :=
  Keeps.tryCatch hx hh

/-- What follows may depend on where it begins. -/
theorem get_bind {f : Live → Run β} (hf : ∀ l : Live, l.Onward ((f l).final l)) :
    Steady (get >>= f) := fun l => by
  rw [final_bind_ok (run_get l)]
  exact hf l

@[grind ←] theorem get : Steady (get : Run Live) := Keeps.of_idle fun _ => rfl

@[grind ←] theorem settle (v : Value) : Steady (Run.settle v) := Keeps.of_idle fun _ => rfl

/-- Whatever changes neither the log nor what the run is on. -/
theorem alter {f : Live → Live} (self : ∀ l, (f l).self = l.self) (log : ∀ l, (f l).log = l.log) :
    Steady (modify f : Run Unit) := fun l => ⟨self l, (log l) ▸ List.prefix_rfl⟩

theorem hold (vs : List Value) : Steady (modify fun l : Live => { l with held := vs }) :=
  alter (fun _ => rfl) fun _ => rfl

@[grind ←] theorem note (e : Entry) : Steady (Run.note e) := fun _ => ⟨rfl, List.prefix_append _ _⟩

@[grind ←] theorem as (v : Value) (hx : Steady x) : Steady (Run.as v x) := fun l => by
  have kept := (hx { l with self := v }).log
  cases h : x.run { l with self := v } with
  | ok a m =>
    rw [final_of_ok h] at kept
    rw [final_of_ok (as_run_ok h)]
    exact ⟨rfl, kept⟩
  | error s m =>
    rw [final_of_error h] at kept
    rw [final_of_error (as_run_error h)]
    exact ⟨rfl, kept⟩

@[grind ←] theorem newRecord (cls : ClassId) : Steady (Run.newRecord cls) :=
  fun _ => ⟨rfl, List.prefix_rfl⟩

@[grind ←] theorem newList (items : List Value) : Steady (Run.newList items) :=
  fun _ => ⟨rfl, List.prefix_rfl⟩

@[grind ←] theorem newWalker (n : Nat) (falls : Bool) : Steady (Run.newWalker n falls) :=
  fun _ => ⟨rfl, List.prefix_rfl⟩

end Steady

end Run

open Run (Steady)

/-- A host answers requests with runs that undo nothing. -/
def Host.IsSteady (h : Host) : Prop := ∀ r, Steady (h.answer r)

namespace Host

variable {h : Host}

@[grind ←] theorem IsSteady.answer (answers : h.IsSteady) (r : Request) : Steady (h.answer r) :=
  answers r

/-! ## What records say about themselves -/

@[grind ←] theorem special?_steady (name : String) (v : Value) : Steady (h.special? name v) := by
  unfold special?
  grind

section Special

variable (answers : h.IsSteady)
include answers

@[grind ←] theorem ask_steady (name : String) (v : Value) (args : List Value) :
    Steady (h.ask name v args) := by
  unfold ask
  grind

@[grind ←] theorem integer_steady (v : Value) : Steady (h.integer v) := by
  unfold integer
  grind

@[grind ←] theorem word_steady (v : Value) : Steady (h.word v) := by
  unfold word
  grind

@[grind ←] theorem length?_steady (v : Value) : Steady (h.length? v) := by
  unfold length?
  grind

@[grind ←] theorem truth_steady (v : Value) : Steady (h.truth v) := by
  unfold truth
  grind

@[grind ←] theorem successor_steady (v : Value) : Steady (h.successor v) := by
  unfold successor
  grind

omit answers in
@[grind ←] theorem textFrom_steady (name : String) (v : Value) : Steady (textFrom name v) := by
  unfold textFrom
  grind

theorem spell_steady : ∀ v, Steady (h.spell v)
  | .int n => by
    rw [spell]
    grind
  | .record id => by
    rw [spell]
    grind
  | .cls id => by
    rw [spell]
    grind
  | .routine owner name layers => by
    rw [spell]
    grind
  | .method of owner name layers => by
    have := spell_steady of
    rw [spell]
    grind
  | .transition source target guard => by
    have := spell_steady source
    have := spell_steady target
    have := spell_steady guard
    rw [spell]
    grind
  | .list items => by
    have := spellAll_steady items
    rw [spell]
    grind
  | .tuple items => by
    have := spellAll_steady items
    rw [spell]
    grind
  | .obj entries => by
    have := spellEntries_steady entries
    rw [spell]
    grind
  | .null | .bool _ | .decimal _ _ | .str _ | .shared _ _ | .listAt _ | .walker _ _ | .moment _
  | .day _ | .machine _ | .function | .sealed _ | .undecided | .textOf _ | .verbatim _ => by
    rw [spell] <;> first | exact Steady.pure _ | simp
where
  spellAll_steady : ∀ vs, Steady (h.spellAll vs)
    | [] => Steady.pure _
    | v :: vs => by
      have := spell_steady v
      have := spellAll_steady vs
      rw [spellAll]
      grind
  spellEntries_steady : ∀ es, Steady (h.spellEntries es)
    | [] => Steady.pure _
    | (name, v) :: es => by
      have := spell_steady v
      have := spellEntries_steady es
      rw [spellEntries]
      grind

@[grind ←] theorem spelled_steady (v : Value) : Steady (h.spelled v) := by
  have := spell_steady answers
  unfold spelled
  grind

@[grind ←] theorem asText_steady (v : Value) : Steady (h.asText v) := by
  unfold asText
  grind

@[grind ←] theorem asTexts_steady (vs : List Value) : Steady (h.asTexts vs) := by
  induction vs with
  | nil => exact Steady.pure _
  | cons v vs ih =>
    rw [asTexts]
    grind

@[grind ←] theorem message_steady (stop : Stop) : Steady (h.message stop) := by
  unfold message
  grind

@[grind ←] theorem asState_steady (v : Value) : Steady (h.asState v) := by
  unfold asState
  grind

@[grind ←] theorem innateVerdict_steady (r : Relation) (a b : Value) :
    Steady (h.innateVerdict r a b) := by
  unfold innateVerdict
  grind

@[grind ←] theorem verdict_steady (r : Relation) (a b : Value) : Steady (h.verdict r a b) := by
  unfold verdict
  grind

@[grind ←] theorem compareRecords_steady (r : Relation) (a b : Value) :
    Steady (h.compareRecords r a b) := by
  unfold compareRecords
  grind

@[grind ←] theorem compareAlone_steady (r : Relation) (a b : Value) :
    Steady (h.compareAlone r a b) := by
  unfold compareAlone
  grind

theorem compareIn_steady : ∀ (a b : Value) (r : Relation), Steady (h.compareIn r a b)
  | .list xs, b, r => by
    have items := compareItems_steady xs
    rw [compareIn.eq_def]
    grind
  | .tuple xs, b, r => by
    have items := compareItems_steady xs
    rw [compareIn.eq_def]
    grind
  | .obj xs, b, r => by
    have entries := compareEntries_steady xs
    rw [compareIn.eq_def]
    grind
  | .null, _, _ | .bool _, _, _ | .int _, _, _ | .decimal _ _, _, _ | .str _, _, _
  | .record _, _, _ | .cls _, _, _ | .routine _ _ _, _, _ | .method _ _ _ _, _, _
  | .transition _ _ _, _, _ | .shared _ _, _, _ | .listAt _, _, _ | .walker _ _, _, _
  | .moment _, _, _ | .day _, _, _ | .machine _, _, _ | .function, _, _ | .sealed _, _, _
  | .undecided, _, _ | .textOf _, _, _ | .verbatim _, _, _ => by
    rw [compareIn] <;> first | exact compareAlone_steady answers _ _ _ | simp
where
  compareItems_steady : ∀ (xs ys : List Value) (r : Relation), Steady (h.compareItems r xs ys)
    | [], ys, r => by
      rw [compareItems]
      grind
    | x :: xs, ys, r => by
      have first := compareIn_steady x
      have rest := compareItems_steady xs
      rw [compareItems.eq_def]
      grind
  compareEntries_steady :
      ∀ xs ys : List (String × Value), Steady (h.compareEntries xs ys)
    | [], ys => by
      rw [compareEntries]
      grind
    | (name, x) :: xs, ys => by
      have first := compareIn_steady x
      have rest := compareEntries_steady xs
      rw [compareEntries]
      grind

@[grind ←] theorem compare_steady (r : Relation) (a b : Value) : Steady (h.compare r a b) := by
  have := compareIn_steady answers
  unfold compare
  grind

@[grind ←] theorem differ_steady (a b : Value) : Steady (h.differ a b) := by
  unfold differ
  grind

@[grind ←] theorem agree_steady (a b : Value) : Steady (h.agree a b) := by
  unfold agree
  grind

end Special

/-! ## Going through a value -/

section Walks

variable {α : Type} {visit : Value → Run α}

theorem walkBy_steady {next : Nat → Run (Option Value)} (nexts : ∀ i, Steady (next i))
    (visits : ∀ v, Steady (visit v)) (n i : Nat) : Steady (walkBy next visit n i) := by
  induction n generalizing i with
  | zero => exact Steady.throw _
  | succ n ih =>
    rw [walkBy]
    grind

theorem walkItems_steady (visits : ∀ v, Steady (visit v)) (vs : List Value) :
    Steady (walkItems visit vs) := by
  induction vs with
  | nil => exact Steady.pure _
  | cons v vs ih =>
    rw [walkItems]
    grind

@[grind ←] theorem stepOf_steady (k i : Nat) : Steady (stepOf k i) := fun _ =>
  ⟨rfl, List.prefix_rfl⟩

variable (answers : h.IsSteady)
include answers

@[grind ←] theorem nextOf_steady (walker : Value) (i : Nat) : Steady (h.nextOf walker i) := by
  unfold nextOf
  grind

@[grind ←] theorem itemOf_steady (method : Value) (i : Nat) : Steady (h.itemOf method i) := by
  unfold itemOf
  grind

@[grind ←] theorem walk_steady {prepare : Run Unit} (prepares : Steady prepare)
    (visits : ∀ v, Steady (visit v)) (v : Value) : Steady (h.walk v prepare visit) := by
  unfold walk
  refine (special?_steady _ _).bind fun method => ?_
  split
  · exact Steady.fail _
  · refine (answers _).bind fun walker => (special?_steady _ _).bind fun next => ?_
    split
    · exact Steady.fail _
    · exact prepares.bind fun _ => walkBy_steady (nextOf_steady answers walker) visits _ _
  · refine (special?_steady _ _).bind fun method => ?_
    split
    · exact prepares.bind fun _ => walkBy_steady (itemOf_steady answers _) visits _ _
    · refine (Steady.settle v).bind fun w => ?_
      split
      · exact walkBy_steady (stepOf_steady _) visits _ _
      · split
        · exact walkItems_steady visits _
        · exact Steady.fail _

@[grind ←] theorem askSize_steady (v : Value) : Steady (h.askSize v) := by
  unfold askSize
  grind

@[grind ←] theorem elements_steady (v : Value) : Steady (h.elements v) := by
  unfold elements
  grind

end Walks

/-! ## The end of records -/

section Farewells

variable {α : Type} (answers : h.IsSteady)
include answers

@[grind ←] theorem bidFarewell_steady (id : RecordId) : Steady (h.bidFarewell id) := by
  have asked := ask_steady answers farewellName (.record id) []
  have caught := Steady.tryCatch (asked.bind fun _ => Steady.pure ()) fun _ => Steady.pure ()
  exact caught.bind fun _ => Steady.alter (fun _ => rfl) fun _ => rfl

theorem letGoOf_steady (n : Nat) (waiting : List RecordId) : Steady (h.letGoOf n waiting) := by
  induction n generalizing waiting with
  | zero => exact Steady.pure _
  | succ n ih =>
    rw [letGoOf]
    refine Steady.get_bind fun l => ?_
    dsimp only
    split
    · exact ⟨rfl, List.prefix_rfl⟩
    · next id rest _ =>
      have later : Steady (do
          h.bidFarewell id
          modify ({ · with held := l.held })
          h.letGoOf n rest : Run Unit) :=
        (bidFarewell_steady answers id).bind fun _ => (Steady.hold _).bind fun _ => ih rest
      have begun := later { l with held := (id :: rest).map Value.record ++ l.held }
      exact ⟨begun.self, begun.log⟩

@[grind ←] theorem letGo_steady : Steady h.letGo := by
  have := letGoOf_steady answers
  unfold letGo
  grind

@[grind ←] theorem inHand_steady {act : Run α} (acts : Steady act) (vs : List Value)
    (kept : α → List Value) : Steady (h.inHand vs kept act) := by
  unfold inHand
  refine Steady.get_bind fun l => ?_
  split
  · have later : Steady (do
        let a ← act
        modify ({ · with held := kept a ++ l.held })
        h.letGo
        return a : Run α) :=
      acts.bind fun a => (Steady.hold _).bind fun _ =>
        (letGo_steady answers).bind fun _ => Steady.pure a
    have begun := later { l with held := vs ++ l.held }
    exact ⟨begun.self, begun.log⟩
  · exact acts l

@[grind ←] theorem working_steady {act : Run Value} (acts : Steady act) (vs : List Value) :
    Steady (h.working vs act) :=
  inHand_steady answers acts _ _

@[grind ←] theorem passing_steady {act : Run α} (acts : Steady act) : Steady (h.passing act) :=
  inHand_steady answers acts _ _

end Farewells

/-! ## Attributes -/

section Access

@[grind ←] theorem View.write_steady (id : RecordId) (v : Value) (what : View) :
    Steady (what.write id v) := by
  cases what with
  | attributes =>
    cases v with
    | obj _ | shared _ _ => exact Steady.alter (fun _ => rfl) fun _ => rfl
    | _ => exact Steady.fail _
  | cls =>
    cases v with
    | cls new =>
      refine Steady.get_bind fun l => ?_
      dsimp only
      split
      · exact Steady.fail _ l
      · split
        · exact ⟨rfl, List.prefix_rfl⟩
        · exact Steady.fail _ l
    | _ => exact Steady.fail _
  | references => exact Steady.fail _

@[grind ←] theorem View.erase_steady (id : RecordId) (what : View) : Steady (what.erase id) := by
  cases what with
  | attributes => exact Steady.alter (fun _ => rfl) fun _ => rfl
  | cls | references => exact Steady.fail _

@[grind ←] theorem plain?_steady (id : RecordId) (name : String) : Steady (h.plain? id name) := by
  unfold plain?
  grind

@[grind ←] theorem storeOn_steady (id : RecordId) (name : String) (v : Value) :
    Steady (h.storeOn id name v) := by
  unfold storeOn
  refine Steady.get_bind fun l => ?_
  split
  · exact Steady.fail _ l
  · exact View.write_steady id v _ l
  · exact ⟨rfl, List.prefix_rfl⟩
  · split
    · exact Steady.fail _ l
    · exact ⟨rfl, List.prefix_rfl⟩

@[grind ←] theorem discardOn_steady (id : RecordId) (name : String) :
    Steady (h.discardOn id name) := by
  unfold discardOn
  refine Steady.get_bind fun l => ?_
  split
  · exact Steady.fail _ l
  · exact View.erase_steady id _ l
  · split
    · exact ⟨rfl, List.prefix_rfl⟩
    · exact Steady.fail _ l
  · split
    · exact ⟨rfl, List.prefix_rfl⟩
    · exact Steady.fail _ l

@[grind ←] theorem discardFrom_steady (cls : ClassId) (name : String) :
    Steady (h.discardFrom cls name) := by
  unfold discardFrom
  refine Steady.get_bind fun l => ?_
  dsimp only
  repeat' split
  all_goals first | exact Steady.fail _ l | exact ⟨rfl, List.prefix_rfl⟩

@[grind ←] theorem discard_steady (name : String) : Steady (h.discard name) := by
  unfold discard
  grind

@[grind ←] theorem hookNow?_steady (use : Hook) : Steady (h.hookNow? use) := by
  unfold hookNow?
  grind

variable (answers : h.IsSteady)
include answers

omit answers in
theorem found_steady {own : Run (Option Value)} (owns : Steady own) (f : Fault) :
    Steady (do
      match ← own with
      | .some v => return v
      | .none => Run.fail f : Run Value) := by
  grind

@[grind ←] theorem readBy_steady {own : Run (Option Value)} (owns : Steady own) (id : RecordId)
    (name : String) : Steady (h.readBy id own name) := by
  have first := found_steady owns (.attributeMissing (.record id) name)
  unfold readBy
  refine Steady.get.bind fun l => ?_
  dsimp only
  split <;> split <;> grind

@[grind ←] theorem look?_steady {own : Run (Option Value)} (owns : Steady own) (id : RecordId)
    (name : String) : Steady (h.look? id own name) := by
  unfold look?
  grind

@[grind ←] theorem stateFor_steady (id : RecordId) (m : Machine) : Steady (h.stateFor id m) := by
  unfold stateFor
  grind

@[grind ←] theorem recordOwn?_steady (id : RecordId) (name : String) :
    Steady (h.recordOwn? id name) := by
  unfold recordOwn?
  grind

@[grind ←] theorem own?_steady (name : String) : Steady (h.own? name) := by
  unfold own?
  grind

@[grind ←] theorem attr?_steady (name : Value) : Steady (h.attr? name) := by
  unfold attr?
  grind

@[grind ←] theorem attr_steady (name : Value) : Steady (h.attr name) := by
  unfold attr
  grind

@[grind ←] theorem attrOf_steady (v name : Value) : Steady (h.attrOf v name) := by
  unfold attrOf
  grind

@[grind ←] theorem shown_steady (name : Value) : Steady (h.shown name) := by
  unfold shown
  grind

@[grind ←] theorem hasAttr_steady (name : Value) : Steady (h.hasAttr name) := by
  unfold hasAttr
  grind

@[grind ←] theorem requireOwn_steady (name : Value) : Steady (h.requireOwn name) := by
  unfold requireOwn
  grind

@[grind ←] theorem require_steady (name : Value) : Steady (h.require name) := by
  unfold require
  grind

@[grind ←] theorem storeIn_steady (cls : ClassId) (name : String) (v : Value) :
    Steady (h.storeIn cls name v) := by
  unfold storeIn
  refine Steady.get_bind fun l => ?_
  dsimp only
  split
  · exact ⟨rfl, List.prefix_rfl⟩
  · split
    · exact Steady.fail _ l
    · split
      · exact Steady.pure _ l
      · exact Steady.pure _ l
      · exact ⟨rfl, List.prefix_rfl⟩
      · split
        · refine (truth_steady answers _).bind (fun isUnfinished => Steady.alter ?_ ?_) l
          · intro l
            split <;> split <;> rfl
          · intro l
            split <;> split <;> rfl
        · refine (Steady.pure _).bind (fun isUnfinished => Steady.alter ?_ ?_) l
          · intro l
            split <;> split <;> rfl
          · intro l
            split <;> split <;> rfl

@[grind ←] theorem store_steady (name : String) (v : Value) : Steady (h.store name v) := by
  unfold store
  grind

@[grind ←] theorem setAttr_steady (name v : Value) : Steady (h.setAttr name v) := by
  unfold setAttr
  grind

@[grind ←] theorem delAttr_steady (name : Value) : Steady (h.delAttr name) := by
  unfold delAttr
  grind

@[grind ←] theorem setAttrs_steady (entries : List (String × Value)) :
    Steady (h.setAttrs entries) := by
  induction entries with
  | nil => exact Steady.pure _
  | cons entry rest ih =>
    rw [setAttrs]
    grind

@[grind ←] theorem askClass_steady (v : Value) : Steady (h.askClass v) := by
  unfold askClass
  grind

@[grind ←] theorem isBlank_steady (v : Value) : Steady (h.isBlank v) := by
  unfold isBlank
  grind

end Access

end Host

end Lifecycle
