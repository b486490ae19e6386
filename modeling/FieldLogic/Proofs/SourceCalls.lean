import FieldLogic.FieldGroup.Basic
import FieldLogic.Proofs.SetOutcome

/-! How often sources are asked. A snapshot asks every source, an evaluation those up to the first malformed text. So
over any run of requests the calls of a producer are known from the requests and from the texts that stand before its
own, each request is answered from the texts that come next, and nothing else of a set ever changes. -/

namespace FieldLogic

def Expression.isWellFormed (text : String) : Bool := (parse text).isOk

namespace Source

def later (calls : Nat) : Source → Source
  | fixed text => fixed text
  | produced producer => produced { producer with calls := producer.calls + calls }

theorem resolve_fixed (text : String) : (fixed text).resolve = (text, fixed text) := rfl

theorem resolve_snd (source : Source) : source.resolve.2 = source.later 1 := by cases source <;> rfl

theorem later_zero (source : Source) : source.later 0 = source := by cases source <;> rfl

theorem later_later (first second : Nat) (source : Source) :
    (source.later first).later second = source.later (first + second) := by
  cases source with
  | fixed => rfl
  | produced producer => rw [later, later, later, Nat.add_assoc]

end Source

namespace ConditionSet

inductive Request where
  | evaluation (record : Record)
  | snapshot

inductive Answer where
  | evaluation (outcome : Traced (Except ParseError Bool))
  | snapshot (config : Config)

def serve (set : ConditionSet) : Request → Answer × ConditionSet
  | .evaluation record => (.evaluation (set.evaluate record).1, (set.evaluate record).2)
  | .snapshot => (.snapshot set.snapshot.1, set.snapshot.2)

/-- A request with the texts that the sources give if they are asked in it. -/
structure Turn where
  request : Request
  texts : List String

namespace Turn

def isSnapshot (turn : Turn) : Bool :=
  match turn.request with
  | .evaluation _ => false
  | .snapshot => true

/-- An evaluation in which no text before a place is malformed. -/
def reaches (place : Nat) (turn : Turn) : Bool :=
  !turn.isSnapshot && (turn.texts.take place).all Expression.isWellFormed

end Turn

/-- How often the source at a place is asked. -/
def asked (turns : List Turn) (place : Nat) : Nat := turns.countP Turn.isSnapshot + turns.countP (Turn.reaches place)

/-- The set whose producers have been called so many times more, each as often as its place says. -/
def advanced (set : ConditionSet) (calls : Nat → Nat) : ConditionSet :=
  { set with sources := set.sources.mapIdx fun place source => source.later (calls place) }

theorem advanced_advanced (set : ConditionSet) (first second : Nat → Nat) :
    (set.advanced first).advanced second = set.advanced fun place => first place + second place := by
  simp only [advanced, List.mapIdx_mapIdx, Function.comp_def, Source.later_later]

theorem asked_cons (turn : Turn) (turns : List Turn) (place : Nat) :
    asked (turn :: turns) place = asked [turn] place + asked turns place := by
  simp only [asked, List.countP_cons, List.countP_nil]
  omega

theorem asked_evaluation (record : Record) (texts : List String) (place : Nat) :
    asked [⟨.evaluation record, texts⟩] place = if (texts.take place).all Expression.isWellFormed then 1 else 0 := by
  simp [asked, List.countP_cons, Turn.reaches, Turn.isSnapshot]

theorem asked_snapshot (texts : List String) (place : Nat) : asked [⟨.snapshot, texts⟩] place = 1 := by
  simp [asked, List.countP_cons, Turn.reaches, Turn.isSnapshot]

private theorem mapIdx_eq_map {α β : Type} (change : α → β) (items : List α) :
    items.mapIdx (fun _ item => change item) = items.map change := by
  apply List.ext_getElem?
  intro place
  rw [List.getElem?_mapIdx, List.getElem?_map]

theorem evaluateSources_snd (record : Record) (sources : List Source) :
    (evaluateSources record sources).2 = sources.mapIdx fun place source =>
      source.later (asked [⟨.evaluation record, sources.map fun source => source.resolve.1⟩] place) := by
  induction sources with
  | nil => rfl
  | cons source rest ih =>
    rw [evaluateSources, List.mapIdx_cons]
    cases read : Expression.parse source.resolve.1 with
    | error error =>
      have malformed : Expression.isWellFormed source.resolve.1 = false := by rw [Expression.isWellFormed, read]; rfl
      simp [asked_evaluation, malformed, Source.resolve_snd, Source.later_zero, mapIdx_eq_map]
    | ok expression =>
      have wellFormed : Expression.isWellFormed source.resolve.1 = true := by rw [Expression.isWellFormed, read]; rfl
      simp [asked_evaluation, wellFormed, Source.resolve_snd, ih]

theorem resolveAll_eq (sources : List Source) :
    Source.resolveAll sources =
      (sources.map fun source => source.resolve.1, sources.map fun source => source.resolve.2) := by
  induction sources with
  | nil => rfl
  | cons source rest ih => rw [Source.resolveAll, ih, List.map_cons, List.map_cons]

theorem snapshot_fst (set : ConditionSet) : set.snapshot.1 = ⟨set.mode, set.texts⟩ := by
  rw [snapshot, resolveAll_eq, texts]

/-- After a request every producer has been called once if it was asked, and nothing else has changed. -/
theorem serve_snd (set : ConditionSet) (request : Request) :
    (set.serve request).2 = set.advanced (asked [⟨request, set.texts⟩]) := by
  cases request with
  | evaluation record =>
    obtain ⟨sources, mode⟩ := set
    cases sources with
    | nil => rfl
    | cons source rest =>
      rw [advanced, texts, ← evaluateSources_snd]
      rfl
  | snapshot =>
    simp only [serve, snapshot, resolveAll_eq, advanced, asked_snapshot, mapIdx_eq_map, Source.resolve_snd]

def run (set : ConditionSet) (requests : List Request) : ConditionSet :=
  requests.foldl (fun set request => (set.serve request).2) set

def turns : ConditionSet → List Request → List Turn
  | _, [] => []
  | set, request :: rest => ⟨request, set.texts⟩ :: turns (set.serve request).2 rest

/-- The texts of a turn are those of the set that the earlier requests leave. -/
theorem getElem?_turns (set : ConditionSet) (requests : List Request) (place : Nat) :
    (set.turns requests)[place]? =
      requests[place]?.map fun request => ⟨request, (set.run (requests.take place)).texts⟩ := by
  induction requests generalizing set place with
  | nil => rfl
  | cons request rest ih =>
    cases place with
    | zero => rfl
    | succ place => exact ih _ place

/-- After a run every producer has been called as often as its source was asked, and nothing else has changed. -/
theorem run_eq (set : ConditionSet) (requests : List Request) :
    set.run requests = set.advanced (asked (set.turns requests)) := by
  induction requests generalizing set with
  | nil =>
    have unasked (source : Source) : source.later (0 + 0) = source := source.later_zero
    simp only [run, turns, List.foldl_nil, advanced, asked, List.countP_nil, unasked, mapIdx_eq_map, List.map_id']
  | cons request rest ih =>
    calc set.run (request :: rest)
        = (set.serve request).2.advanced (asked ((set.serve request).2.turns rest)) := ih _
      _ = (set.advanced (asked [⟨request, set.texts⟩])).advanced (asked ((set.serve request).2.turns rest)) :=
          congrArg (advanced · _) (set.serve_snd request)
      _ = set.advanced (asked (set.turns (request :: rest))) := by
          rw [advanced_advanced]
          exact congrArg set.advanced (funext fun place => (asked_cons _ _ place).symm)

/-- The set in which the texts that come next are fixed. -/
def settled (set : ConditionSet) : ConditionSet := ⟨set.texts.map .fixed, set.mode⟩

@[simp] theorem settled_mode (set : ConditionSet) : set.settled.mode = set.mode := rfl

@[simp] theorem texts_settled (set : ConditionSet) : set.settled.texts = set.texts := by
  simp [texts, settled, Source.resolve]

theorem evaluateSources_fixed (record : Record) (sources : List Source) :
    (evaluateSources record (sources.map fun source => .fixed source.resolve.1)).1 = (evaluateSources record sources).1 := by
  induction sources with
  | nil => rfl
  | cons source rest ih =>
    rw [List.map_cons, evaluateSources, evaluateSources, Source.resolve_fixed]
    cases Expression.parse source.resolve.1 with
    | error => rfl
    | ok => simp only [ih]

theorem evaluate_settled (set : ConditionSet) (record : Record) :
    (set.settled.evaluate record).1 = (set.evaluate record).1 := by
  obtain ⟨sources, mode⟩ := set
  cases sources with
  | nil => rfl
  | cons source rest =>
    have same := evaluateSources_fixed record (source :: rest)
    simp only [evaluate, isEmpty, settled, texts, List.map_map, Function.comp_def, same]
    rfl

theorem snapshot_settled (set : ConditionSet) : set.settled.snapshot.1 = set.snapshot.1 := by
  rw [snapshot_fst, snapshot_fst, texts_settled, settled_mode]

/-- A request is answered from the texts that come next and from nothing else. -/
theorem serve_settled (set : ConditionSet) (request : Request) :
    (set.settled.serve request).1 = (set.serve request).1 := by
  cases request with
  | evaluation record => rw [serve, serve, evaluate_settled]
  | snapshot => rw [serve, serve, snapshot_settled]

theorem getElem?_advanced (set : ConditionSet) (calls : Nat → Nat) (place : Nat) :
    (set.advanced calls).sources[place]? = set.sources[place]?.map (Source.later (calls place)) := List.getElem?_mapIdx

def Fixed (set : ConditionSet) : Prop := ∀ source ∈ set.sources, ∃ text, source = .fixed text

theorem Fixed.advanced {set : ConditionSet} (fixed : Fixed set) (calls : Nat → Nat) : set.advanced calls = set := by
  have same (place : Nat) : (set.advanced calls).sources[place]? = set.sources[place]? := by
    rw [getElem?_advanced]
    cases held : set.sources[place]? with
    | none => rfl
    | some source =>
      obtain ⟨text, rfl⟩ := fixed source (List.mem_of_getElem? held)
      rfl
  exact congrArg (fun sources => { set with sources := sources }) (List.ext_getElem? same)

theorem getElem?_texts (set : ConditionSet) (place : Nat) :
    set.texts[place]? = set.sources[place]?.map fun source => source.resolve.1 := List.getElem?_map

end ConditionSet

namespace FieldGroup

/-- What a host may ask of a group, or of its conditions by themselves. -/
inductive Request where
  | activeFields (record : Record)
  | staleResets (record : Record)
  | snapshot
  | conditions (request : ConditionSet.Request)

inductive Answer where
  | activeFields (outcome : Traced (Except ParseError (List Field)))
  | staleResets (outcome : Traced (Except ParseError (List Reset)))
  | snapshot (text : String)
  | conditions (answer : ConditionSet.Answer)

def serve (group : FieldGroup) : Request → Answer × FieldGroup
  | .activeFields record => (.activeFields (group.activeFields record).1, (group.activeFields record).2)
  | .staleResets record => (.staleResets (group.staleResets record).1, (group.staleResets record).2)
  | .snapshot => (.snapshot group.snapshot.1, group.snapshot.2)
  | .conditions request =>
    (.conditions (group.conditions.serve request).1, { group with conditions := (group.conditions.serve request).2 })

def Request.within : Request → ConditionSet.Request
  | activeFields record | staleResets record => .evaluation record
  | snapshot => .snapshot
  | conditions request => request

def run (group : FieldGroup) (requests : List Request) : FieldGroup :=
  requests.foldl (fun group request => (group.serve request).2) group

theorem serve_snd (group : FieldGroup) (request : Request) :
    (group.serve request).2 = { group with conditions := (group.conditions.serve request.within).2 } := by
  cases request <;> rfl

theorem run_eq (group : FieldGroup) (requests : List Request) :
    group.run requests = { group with conditions := group.conditions.run (requests.map Request.within) } := by
  induction requests generalizing group with
  | nil => rfl
  | cons request rest ih =>
    calc group.run (request :: rest)
        = (group.serve request).2.run rest := rfl
      _ = { group with conditions := group.conditions.run ((request :: rest).map Request.within) } := by
          rw [ih, serve_snd]
          rfl

theorem getElem?_turns (group : FieldGroup) (requests : List Request) (place : Nat) :
    (group.conditions.turns (requests.map Request.within))[place]? =
      requests[place]?.map fun request => ⟨request.within, (group.run (requests.take place)).conditions.texts⟩ := by
  rw [ConditionSet.getElem?_turns, List.getElem?_map, Option.map_map, run_eq, List.map_take]
  rfl

def settled (group : FieldGroup) : FieldGroup := { group with conditions := group.conditions.settled }

theorem serve_settled (group : FieldGroup) (request : Request) :
    (group.settled.serve request).1 = (group.serve request).1 := by
  cases request with
  | activeFields record => simp only [serve, activeFields, settled, ConditionSet.evaluate_settled]
  | staleResets record => simp only [serve, staleResets, settled, ConditionSet.evaluate_settled]; rfl
  | snapshot => simp only [serve, snapshot, settled, ConditionSet.snapshot_settled]; rfl
  | conditions request => simp only [serve, settled, ConditionSet.serve_settled]

theorem activeFields_fst (group : FieldGroup) (record : Record) :
    (group.activeFields record).1 = (group.conditions.evaluate record).1.map fun outcome =>
      outcome.map fun active => if active then group.fields else [] := rfl

theorem staleResets_fst (group : FieldGroup) (record : Record) :
    let met := (group.conditions.evaluate record).1
    (group.staleResets record).1 = ⟨met.result.map fun active => if active then [] else group.resets,
      met.diagnostics ++ if met.result = .ok false then [.inactiveGroup group.key group.resets.length] else []⟩ := by
  simp only [staleResets]
  cases (group.conditions.evaluate record).1.result with
  | error error => rw [if_neg nofun, List.append_nil]; rfl
  | ok active =>
    cases active with
    | true => rw [if_neg nofun, List.append_nil]; rfl
    | false => rw [if_pos rfl]; rfl

theorem snapshot_fst (group : FieldGroup) :
    group.snapshot.1 = String.ofList (Json.writeObject
      [("key", Json.writeString group.key), ("mode", Json.writeString group.conditions.mode.name),
       ("fields", Json.writeArray (group.fields.map Field.jsonCharacters)),
       ("expressions", Json.writeArray (group.conditions.texts.map Json.writeString))]) := by
  simp only [snapshot, ConditionSet.snapshot_fst]

theorem key_of_fields {first second : FieldGroup} (same : first.fields = second.fields) : first.key = second.key := by
  obtain ⟨fields, conditions⟩ := first
  obtain ⟨others, more⟩ := second
  obtain rfl : fields = others := same
  rfl

theorem resets_of_fields {first second : FieldGroup} (same : first.fields = second.fields) :
    first.resets = second.resets := by
  rw [resets, resets, same]

open ConditionSet in
/-- Over any run of requests to a group or to its conditions, each of which finds the texts that the earlier ones leave, a
producer is called once for each snapshot and once for each evaluation in which every text before its own is well-formed,
and the output that follows these calls is its next text. The fields, the mode, the number of sources and the fixed texts
stay. Whatever is asked next is answered from the next texts alone: an evaluation reports what they give, it decides on the
fields and resets, and a snapshot lists them. -/
theorem run_asks (group : FieldGroup) (requests : List Request) :
    let turns := group.conditions.turns (requests.map Request.within)
    let last := group.run requests
    let texts := last.conditions.texts
    (∀ place : Nat, turns[place]? = requests[place]?.map fun request =>
      ⟨request.within, (group.run (requests.take place)).conditions.texts⟩) ∧
    (last.fields = group.fields ∧ last.conditions.mode = group.conditions.mode ∧
      last.conditions.sources.length = group.conditions.sources.length ∧
      (∀ {place : Nat} {text : String}, group.conditions.sources[place]? = some (.fixed text) →
        last.conditions.sources[place]? = some (.fixed text) ∧ texts[place]? = some text) ∧
      (∀ {place : Nat} {producer : Producer}, group.conditions.sources[place]? = some (.produced producer) →
        let calls := producer.calls + (turns.countP Turn.isSnapshot + turns.countP (Turn.reaches place))
        last.conditions.sources[place]? = some (.produced { producer with calls := calls }) ∧
          texts[place]? = some (producer.output calls))) ∧
    (∀ record,
      let met := (last.conditions.evaluate record).1
      Reports group.conditions.mode record texts met ∧
        (last.activeFields record).1 = met.map (fun outcome =>
          outcome.map fun active => if active then group.fields else []) ∧
        (last.staleResets record).1 = ⟨met.result.map fun active => if active then [] else group.resets,
          met.diagnostics ++ if met.result = .ok false then [.inactiveGroup group.key group.resets.length] else []⟩) ∧
    last.conditions.snapshot.1 = ⟨group.conditions.mode, texts⟩ ∧
    last.snapshot.1 = String.ofList (Json.writeObject
      [("key", Json.writeString group.key), ("mode", Json.writeString group.conditions.mode.name),
       ("fields", Json.writeArray (group.fields.map Field.jsonCharacters)),
       ("expressions", Json.writeArray (texts.map Json.writeString))]) ∧
    ∀ request, (last.serve request).1 = (last.settled.serve request).1 := by
  intro turns last texts
  have whole : last = { group with conditions := group.conditions.advanced (asked turns) } := by
    rw [← ConditionSet.run_eq]
    exact run_eq group requests
  have fields : last.fields = group.fields := by rw [whole]
  have reached : last.conditions = group.conditions.advanced (asked turns) := congrArg FieldGroup.conditions whole
  have mode : last.conditions.mode = group.conditions.mode := by rw [reached, advanced]
  refine ⟨group.getElem?_turns requests, ⟨fields, mode, ?_, ?_, ?_⟩, ?_, ?_, ?_, ?_⟩
  · rw [reached, advanced, List.length_mapIdx]
  · intro place text held
    rw [getElem?_texts, reached, getElem?_advanced, held]
    exact ⟨rfl, rfl⟩
  · intro place producer held
    rw [getElem?_texts, reached, getElem?_advanced, held]
    exact ⟨rfl, rfl⟩
  · intro record met
    refine ⟨mode ▸ evaluate_reports last.conditions record, fields ▸ activeFields_fst last record, ?_⟩
    rw [staleResets_fst, key_of_fields fields, resets_of_fields fields]
  · rw [ConditionSet.snapshot_fst, mode]
  · rw [snapshot_fst, key_of_fields fields, mode, fields]
  · intro request
    exact (last.serve_settled request).symm

/-- The last source is asked by the snapshots and by the one evaluation in which the first gives a well-formed text, so the
first and the last both give their second text next. -/
theorem run_asks_alternating :
    let group : FieldGroup :=
      ⟨[.ofName "note"], ⟨[.produced (.cycling "(a" ["a = 1"]), .fixed "b", .produced (.cycling "c" ["d = 2"])], .all⟩⟩
    let last := group.run
      [.activeFields .empty, .conditions .snapshot, .staleResets .empty, .conditions (.evaluation .empty), .snapshot]
    last.conditions.sources[2]? = some (.produced { Producer.cycling "c" ["d = 2"] with calls := 3 }) ∧
      last.conditions.snapshot.1 = ⟨.all, ["a = 1", "b", "d = 2"]⟩ ∧
      ∀ record, ConditionSet.Reports .all record ["a = 1", "b", "d = 2"] (last.conditions.evaluate record).1 := by
  intro group last
  have given : last.conditions.texts = ["a = 1", "b", "d = 2"] := by decide +kernel
  obtain ⟨_, ⟨_, _, _, _, produced⟩, answered, listed, _⟩ := run_asks group
    [.activeFields .empty, .conditions .snapshot, .staleResets .empty, .conditions (.evaluation .empty), .snapshot]
  refine ⟨?_, given ▸ listed, fun record => given ▸ (answered record).1⟩
  rw [(@produced 2 (.cycling "c" ["d = 2"]) rfl).1]
  congr 3
  decide +kernel

end FieldGroup

end FieldLogic
