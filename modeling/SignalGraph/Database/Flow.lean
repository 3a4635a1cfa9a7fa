/-! Things that come one after the other, each made only when it is asked for.

One of them may fail. Those before it have come all the same, and whoever stops before it does not
get to know.
-/

set_option autoImplicit false

namespace SignalGraph.Database

inductive Flow (ε α : Type) where
  | done
  | halt (fault : ε)
  | item (head : α) (rest : Unit → Flow ε α)

namespace Flow

variable {ε α β σ : Type}

def ofList : List α → Flow ε α
  | [] => .done
  | head :: rest => .item head fun _ => ofList rest

def single (value : α) : Flow ε α := .item value fun _ => .done

def ofExcept : Except ε (Flow ε α) → Flow ε α
  | .ok flow => flow
  | .error fault => .halt fault

/-- The things of one flow, and then those of another one. -/
def append : Flow ε α → (Unit → Flow ε α) → Flow ε α
  | .done, more => more ()
  | .halt fault, _ => .halt fault
  | .item head rest, more => .item head fun _ => append (rest ()) more

def flatMap (step : α → Flow ε β) : Flow ε α → Flow ε β
  | .done => .done
  | .halt fault => .halt fault
  | .item head rest =>
    match step head with
    | .done => flatMap step (rest ())
    | .halt fault => .halt fault
    | .item first more => .item first fun _ => append (more ()) fun _ => flatMap step (rest ())

def filterMapM (step : α → Except ε (Option β)) : Flow ε α → Flow ε β
  | .done => .done
  | .halt fault => .halt fault
  | .item head rest =>
    match step head with
    | .error fault => .halt fault
    | .ok none => filterMapM step (rest ())
    | .ok (some value) => .item value fun _ => filterMapM step (rest ())

def mapM (step : α → Except ε β) (flow : Flow ε α) : Flow ε β :=
  flow.filterMapM fun value => (step value).map some

def map (step : α → β) (flow : Flow ε α) : Flow ε β := flow.mapM fun value => .ok (step value)

def filterM (test : α → Except ε Bool) (flow : Flow ε α) : Flow ε α :=
  flow.filterMapM fun value => (test value).map fun passes => if passes then some value else none

/-- So many things at most; nothing is asked for behind the last one. -/
def take : Nat → Flow ε α → Flow ε α
  | _, .done => .done
  | _, .halt fault => .halt fault
  | 0, _ => .done
  | 1, .item head _ => single head
  | count + 2, .item head rest => .item head fun _ => take (count + 1) (rest ())

def drop : Nat → Flow ε α → Flow ε α
  | 0, flow => flow
  | _, .done => .done
  | _, .halt fault => .halt fault
  | count + 1, .item _ rest => drop count (rest ())

/-- The things as far as they pass a test. -/
def takeWhile (test : α → Bool) : Flow ε α → Flow ε α
  | .done => .done
  | .halt fault => .halt fault
  | .item head rest => if test head then .item head fun _ => takeWhile test (rest ()) else .done

def foldM (step : σ → α → Except ε σ) : σ → Flow ε α → Except ε σ
  | state, .done => .ok state
  | _, .halt fault => .error fault
  | state, .item head rest =>
    match step state head with
    | .ok state => foldM step state (rest ())
    | .error fault => .error fault

/-- What a step makes of each thing and of what the steps before have left. -/
def through (step : σ → α → Except ε (σ × Option β)) : σ → Flow ε α → Flow ε β
  | _, .done => .done
  | _, .halt fault => .halt fault
  | state, .item head rest =>
    match step state head with
    | .error fault => .halt fault
    | .ok (state, none) => through step state (rest ())
    | .ok (state, some value) => .item value fun _ => through step state (rest ())

def toList (flow : Flow ε α) : Except ε (List α) :=
  (flow.foldM (fun done value => .ok (value :: done)) []).map List.reverse

/-- The things up to a fault, the latest first, and the fault. -/
def collectAfter : List α → Flow ε α → List α × Option ε
  | found, .done => (found, none)
  | found, .halt fault => (found, some fault)
  | found, .item head rest => collectAfter (head :: found) (rest ())

/-- All that comes of a flow. -/
def collect (flow : Flow ε α) : List α × Option ε :=
  let (found, fault) := collectAfter [] flow
  (found.reverse, fault)

/-- What came of a flow, once more. -/
def replay (collected : List α × Option ε) : Flow ε α :=
  (ofList collected.1).append fun _ =>
    match collected.2 with
    | some fault => .halt fault
    | none => .done

/-- So many things at most, or all of them. -/
def takeAtMost : Option Nat → Flow ε α → Flow ε α
  | some count, flow => flow.take count
  | none, flow => flow

/-- The things of a flow, and then what a step makes of what was noted along the way. -/
def endingWith (note : σ → α → σ) (finish : σ → Flow ε α) : σ → Flow ε α → Flow ε α
  | state, .done => finish state
  | _, .halt fault => .halt fault
  | state, .item head rest =>
    .item head fun _ => endingWith note finish (note state head) (rest ())

def head? : Flow ε α → Except ε (Option α)
  | .done => .ok none
  | .halt fault => .error fault
  | .item head _ => .ok (some head)

/-- The things of a flow, or others if there are none. -/
def orElse (flow : Flow ε α) (other : Unit → Flow ε α) : Flow ε α :=
  match flow with
  | .done => other ()
  | flow => flow

def mapFault {ε' : Type} (change : ε → ε') : Flow ε α → Flow ε' α
  | .done => .done
  | .halt fault => .halt (change fault)
  | .item head rest => .item head fun _ => mapFault change (rest ())

/-- Things that stand side by side and belong together. The open ones are the latest first. -/
def runsFrom (together : α → α → Bool) : List α → Flow ε α → Flow ε (List α)
  | [], .done => .done
  | found, .done => single found.reverse
  | _, .halt fault => .halt fault
  | [], .item head rest => runsFrom together [head] (rest ())
  | last :: before, .item head rest =>
    if together last head then runsFrom together (head :: last :: before) (rest ())
    else .item (last :: before).reverse fun _ => runsFrom together [head] (rest ())

def runs (together : α → α → Bool) (flow : Flow ε α) : Flow ε (List α) :=
  runsFrom together [] flow

end Flow

end SignalGraph.Database
