import PipeQuery.Calc.Members
import PipeQuery.Table.Window

/-!
# Calculations: windows over a column

`rolling`, `expanding` and `ewm` open a window over a column's values (`Datum.windowed`); its
summaries give one double per row, with the column's labels. The arguments are checked in the
library's order; a decaying window takes exactly one of `com`, `span`, `halflife`, `alpha` and
turns it into a centre of mass. Missing values count as NaN; texts and instants cannot be
summarised, except by `count`.
-/

namespace PipeQuery.Calc

namespace Windows

/-- A whole number given as an argument (truths are not whole numbers here). -/
def wholeNumber? (d : Datum) : Option Int :=
  match d with
  | .scalar (.int n) | .element (.int n) _ => some n
  | _ => none

def number? (d : Datum) : Option Float :=
  match d with
  | .scalar (.int n) | .element (.int n) _ => some (Num.intToFloat n)
  | .scalar (.float x) | .element (.float x) _ => some x
  | _ => none

def given (d : Option Datum) : Option Datum :=
  match d with
  | some (.scalar .none) => none
  | d => d

def badWindow : Fault :=
  Fault.inner .valueError "window must be an integer 0 or greater"

def minPeriodsArg (d : Option Datum) : Outcome (Option Nat) :=
  match given d with
  | none => pure none
  | some d =>
    match wholeNumber? d with
    | some n => if n < 0 then throw (Fault.inner .valueError "min_periods must be >= 0") else pure (some n.toNat)
    | none => throw (Fault.inner .valueError "min_periods must be an integer")

/-- The centre of mass of a decaying window, from exactly one of its four measures. -/
def centreOfMass (com span halflife alpha : Option Datum) : Outcome Float := do
  let asNumber (d : Datum) : Outcome Float :=
    match number? d with
    | some x => pure x
    | none => throw (Fault.inner .typeError s!"'<' not supported between instances of '{d.kindName}' and 'int'")
  let measures := [com, span, halflife, alpha].filterMap given
  if measures.length > 1 then
    throw (Fault.inner .valueError "comass, span, halflife, and alpha are mutually exclusive")
  match given com, given span, given halflife, given alpha with
  | some d, _, _, _ =>
    let c ← asNumber d
    if c < 0.0 then throw (Fault.inner .valueError "comass must satisfy: comass >= 0")
    pure c
  | none, some d, _, _ =>
    let s ← asNumber d
    if s < 1.0 then throw (Fault.inner .valueError "span must satisfy: span >= 1")
    pure ((s - 1.0) / 2.0)
  | none, none, some d, _ =>
    match d with
    | .scalar (.str _) | .scalar (.span _) => throw (Fault.inner .valueError
        "halflife can only be a timedelta convertible argument if times is not None.")
    | d =>
      let h ← asNumber d
      if h ≤ 0.0 then throw (Fault.inner .valueError "halflife must satisfy: halflife > 0")
      let decay := 1.0 - Float.exp (Float.log 0.5 / h)
      pure (1.0 / decay - 1.0)
  | none, none, none, some d =>
    let a ← asNumber d
    if a ≤ 0.0 || a > 1.0 then throw (Fault.inner .valueError "alpha must satisfy: 0 < alpha <= 1")
    pure ((1.0 - a) / a)
  | none, none, none, none =>
    throw (Fault.inner .valueError "Must pass one of comass, span, halflife, or alpha")

def openOn (o : Owner) (name : String) (args : List Datum) (kwargs : List (String × Datum)) :
    Outcome Datum := do
  let p := param args kwargs
  let labels := if o.aligned then none else some o.labels
  let flag (d : Option Datum) (default : Bool) : Outcome Bool :=
    match given d with
    | some x => x.truth
    | none => pure default
  match name with
  | "rolling" =>
    let window ← match p 0 "window" with
      | some d => pure d
      | none => throw (Fault.raised .typeError
          "Series.rolling() missing 1 required positional argument: 'window'")
    let center ← match given (p 2 "center") with
      | none => pure false
      | some (.scalar (.bool b)) | some (.element (.bool b) _) => pure b
      | some _ => throw (Fault.inner .valueError "center must be a boolean")
    let least ← minPeriodsArg (p 1 "min_periods")
    if let (some m, some w) := (least, wholeNumber? window) then
      if (m : Int) > w then throw (Fault.inner .valueError s!"min_periods {m} must be <= window {w}")
    match given (p 6 "closed") with
    | some (.scalar (.str s)) =>
      if !(["right", "both", "left", "neither"].contains s) then
        throw (Fault.inner .valueError "closed must be 'right', 'left', 'both' or 'neither'")
    | _ => pure ()
    match wholeNumber? window with
    | some n => if n < 0 then throw badWindow else pure (.windowed (.rolling n.toNat least center) o.col labels)
    | none => throw badWindow
  | "expanding" =>
    let least ← minPeriodsArg (p 0 "min_periods")
    pure (.windowed (.expanding (least.getD 1)) o.col labels)
  | _ =>
    let com ← centreOfMass (p 0 "com") (p 1 "span") (p 2 "halflife") (p 3 "alpha")
    let least ← match given (p 4 "min_periods") with
      | none => pure 1
      | some d =>
        match wholeNumber? d, number? d with
        | some n, _ => pure (max n 1).toNat
        | none, some x => pure (max (Num.truncate x) 1).toNat
        | none, none => throw (Fault.inner .typeError
            s!"int() argument must be a string, a bytes-like object or a real number, not '{d.kindName}'")
    let adjust ← flag (p 5 "adjust") true
    let ignoreMissing ← flag (p 6 "ignore_na") false
    pure (.windowed (.decaying com adjust ignoreMissing least) o.col labels)

def slidingMethods : List String :=
  ["sum", "mean", "min", "max", "median", "std", "var", "count", "sem", "skew", "kurt", "quantile",
   "agg", "aggregate", "apply"]

def decayingMethods : List String :=
  ["mean", "sum", "std", "var"]

def kindOf : Window → String
  | .rolling .. => "Rolling"
  | .expanding _ => "Expanding"
  | .decaying .. => "ExponentialMovingWindow"

def has (w : Window) (name : String) : Bool :=
  match w with
  | .decaying .. => decayingMethods.contains name
  | _ => slidingMethods.contains name

def doubles (c : Column) : Outcome (Array Float) := do
  let refuse : Fault := Fault.inner .valueError "No numeric types to aggregate"
  if c.dtype.isNumeric then
    pure (c.cells.map fun v => if v.isMissing then 0.0 / 0.0 else v.toDouble)
  else if c.dtype == .object || c.dtype matches .nullable _ then
    c.cells.mapM fun v => do
      if v.isMissing then pure (0.0 / 0.0)
      else match doubleOf v with
        | .ok (.float x) => pure x
        | _ => throw refuse
  else throw refuse

def rootOf (x : Float) : Float :=
  if x < 0.0 then 0.0 else x.sqrt

/-- Calls the window summary `name` over `c`, whose row labels are `labels` (`aligned` when the
table's own). -/
def call (w : Window) (c : Column) (labels : Array Value) (aligned : Bool) (name : String)
    (args : List Datum) (kwargs : List (String × Datum)) : Outcome Datum := do
  let p := param args kwargs
  let result (ys : Array Float) : Datum :=
    let col : Column := { label := c.label, dtype := .float64, cells := ys.map Value.float }
    if aligned then .column col else .series col labels
  let ddof ← if name == "std" || name == "var" || name == "sem" then
      match given (p 0 "ddof") with
      | some d => Strings.intArg d
      | none => pure 1
    else pure 1
  if !(has w name) then
    throw (Fault.raised .attributeError s!"'{kindOf w}' object has no attribute '{name}'")
  if name == "count" then
    return result (w.counts (c.cells.map fun v => if v.isMissing then 0.0 / 0.0 else 1.0))
  let xs ← doubles c
  match w with
  | .decaying com adjust ignoreMissing least =>
    match name with
    | "mean" => pure (result (Window.decayingMeans com adjust ignoreMissing least xs))
    | "sum" =>
      if !adjust then throw (Fault.inner .runtimeError "sum is not implemented with adjust=False")
      pure (result (Window.decayingSums com ignoreMissing least xs))
    | _ =>
      let bias ← match given (p 0 "bias") with
        | some d => d.truth
        | none => pure false
      let vs := Window.decayingVariances com adjust ignoreMissing bias least xs
      pure (result (if name == "std" then vs.map rootOf else vs))
  | _ =>
    match name with
    | "sum" => pure (result (w.sums xs))
    | "mean" => pure (result (w.means xs))
    | "min" => pure (result (w.extremes false xs))
    | "max" => pure (result (w.extremes true xs))
    | "median" => pure (result (w.medians xs))
    | "var" => pure (result (w.variances ddof.toNat xs))
    | "std" => pure (result ((w.variances ddof.toNat xs).map rootOf))
    | "sem" =>
      let sds := (w.variances 1 xs).map rootOf
      let ns := w.counts (xs.map fun x => if x.isNaN then 0.0 / 0.0 else 1.0)
      pure (result ((sds.zip ns).map fun (s, k) => s / Float.pow (k - Num.intToFloat ddof) 0.5))
    | "skew" => pure (result (w.skews xs))
    | "kurt" => pure (result (w.kurts xs))
    | "quantile" =>
      let q ← match p 0 "q" with
        | some d => match number? d with
          | some q => pure q
          | none => throw (Fault.inner .typeError "quantile must be a number")
        | none => throw (Fault.raised .typeError
            "Rolling.quantile() missing 1 required positional argument: 'q'")
      if q < 0.0 || q > 1.0 then
        throw (Fault.inner .valueError s!"quantile value {Value.floatText q} not in [0, 1]")
      pure (result (w.quantiles q xs))
    | _ => throw (Fault.raised .attributeError s!"'{kindOf w}' object has no attribute '{name}'")

end Windows

end PipeQuery.Calc
