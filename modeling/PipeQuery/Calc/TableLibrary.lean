import PipeQuery.Calc.Libraries
import PipeQuery.Table.Binning
import PipeQuery.Table.ArrayText

/-!
# Calculations: more of the table library

Members of `pd` that bin, encode and gather columns: `cut` and `qcut` (see `Binning`), which give
a categorical column of intervals, of labels or of bin numbers; `get_dummies`, a table of truths
per distinct value; `Categorical`, `array` and `DataFrame`; and `timedelta_range`.
-/

namespace PipeQuery.Calc

namespace TableLibrary

open Libraries

def numbersToBin (d : Datum) : Outcome (Array Float) :=
  (valuesOf d).mapM fun v =>
    match v with
    | .int _ | .bool _ | .float _ => pure v.toDouble
    | v => if v.isMissing then pure (0.0 / 0.0)
      else throw (Fault.inner .typeError "'<' not supported between instances of 'float' and 'str'")

/-- The values in order of first appearance, those equal as numbers kept once. -/
def distinctEdges (edges : Array Value) : Array Value :=
  edges.foldl (fun acc v => if acc.any fun w => w.toDouble == v.toDouble then acc else acc.push v) #[]

def allDistinct (vs : Array Value) : Bool :=
  let xs := vs.toList
  (List.range xs.length).all fun i =>
    (List.range i).all fun j => !Value.sameEntry (xs.getD i .none) (xs.getD j .none)

def binned (rows : Array Value) (x : Datum) (edges : Array Value) (edgeKind : DType)
    (right lowest : Bool) (labels : Option Datum) (precision : Nat) (duplicates : String)
    (ordered retbins : Bool) : Outcome Datum := do
  if !(["raise", "drop"].contains duplicates) then
    throw (Fault.inner .valueError
      "invalid value for 'duplicates' parameter, valid options are: raise, drop")
  let unique := distinctEdges edges
  let edges ← if unique.size < edges.size && edges.size != 2 then
      if duplicates == "raise" then
        let shown := ({ label := .none, dtype := edgeKind, cells := edges } : Column).indexText none
        throw (Fault.inner .valueError
          s!"Bin edges must be unique: {shown}.\nYou can drop duplicate edges by setting the 'duplicates' kwarg")
      else pure unique
    else pure edges
  let xs ← numbersToBin x
  let bins := Binning.binsOf (edges.map Value.toDouble) right lowest xs
  let categories ← match labels with
    | some (.scalar (.bool false)) => pure none
    | none | some (.scalar .none) =>
      pure (some (Binning.intervals (Binning.shownEdges edges precision right lowest) right))
    | some l =>
      if !isArray l then throw (Fault.inner .valueError
        "Bin labels must either be False, None or passed in as a list-like argument")
      let ls := valuesOf l
      if ordered && !allDistinct ls then throw (Fault.inner .valueError
        "labels must be unique if ordered=True; pass ordered=False for duplicate labels")
      if ls.size + 1 != edges.size then throw (Fault.inner .valueError
        "Bin labels must be one fewer than the number of bin edges")
      pure (some ls)
  let result : Column := match categories with
    | some cats =>
      { label := .none, dtype := .category,
        cells := bins.map fun b => match b with
          | some i => cats.getD i Value.nan
          | none => Value.nan }
    | none =>
      if bins.any Option.isNone then
        { label := .none, dtype := .float64,
          cells := bins.map fun b => match b with
            | some i => Value.float (Float.ofNat i)
            | none => Value.nan }
      else
        { label := .none, dtype := .int64,
          cells := bins.map fun b => Value.int ((b.getD 0 : Nat) : Int) }
  let out := if isSeries x then
      let o := ownerOf rows x
      o.wrap { result with label := o.col.label }
    else .array result .values
  if retbins then
    pure (.seq false [out, .array { label := .none, dtype := edgeKind, cells := edges } .values])
  else pure out

def flagArg (d : Option Datum) (default : Bool) : Outcome Bool :=
  match d with
  | none | some (.scalar .none) => pure default
  | some x => x.truth

def textArg (d : Option Datum) (default : String) : Outcome String :=
  match d with
  | none | some (.scalar .none) => pure default
  | some (.scalar (.str s)) => pure s
  | some d => throw (Fault.inner .typeError s!"expected a string, not {d.kindName}")

def cut (rows : Array Value) (args : List Datum) (kwargs : List (String × Datum)) :
    Outcome Datum := do
  let p := param args kwargs
  let x ← match p 0 "x" with
    | some d => pure d
    | none => throw (Fault.raised .typeError "cut() missing 2 required positional arguments: 'x' and 'bins'")
  let bins ← match p 1 "bins" with
    | some d => pure d
    | none => throw (Fault.raised .typeError "cut() missing 1 required positional argument: 'bins'")
  let right ← flagArg (p 2 "right") true
  let precision ← match p 5 "precision" with
    | some d => pure (← Strings.intArg d).toNat
    | none => pure 3
  let lowest ← flagArg (p 6 "include_lowest") false
  let duplicates ← textArg (p 7 "duplicates") "raise"
  let ordered ← flagArg (p 8 "ordered") true
  let retbins ← flagArg (p 4 "retbins") false
  let (edges, kind) ← if isArray bins then do
      let es := valuesOf bins
      let pairs := es.toList.zip (es.toList.drop 1)
      if pairs.any fun (a, b) => a.toDouble > b.toDouble then
        throw (Fault.inner .valueError "bins must increase monotonically.")
      let kind := (Column.infer .none es).dtype
      pure (if kind.isFloat then es.map fun v => Value.float v.toDouble else es, kind)
    else do
      let n ← Strings.intArg bins
      if n < 1 then throw (Fault.inner .valueError "`bins` should be a positive integer.")
      let xs ← numbersToBin x
      if xs.isEmpty then throw (Fault.inner .valueError "Cannot cut empty array")
      let present := xs.filter fun v => !v.isNaN
      let lo := present.foldl (fun m v => if v < m then v else m) (present.getD 0 (0.0 / 0.0))
      let hi := present.foldl (fun m v => if v > m then v else m) (present.getD 0 (0.0 / 0.0))
      if lo.isInf || hi.isInf then throw (Fault.inner .valueError
        "cannot specify integer `bins` when input data contains infinity")
      pure ((Binning.evenEdges lo hi n.toNat right).map Value.float, DType.float64)
  binned rows x edges kind right lowest (p 3 "labels") precision duplicates ordered retbins

def qcut (rows : Array Value) (args : List Datum) (kwargs : List (String × Datum)) :
    Outcome Datum := do
  let p := param args kwargs
  let x ← match p 0 "x" with
    | some d => pure d
    | none => throw (Fault.raised .typeError "qcut() missing 2 required positional arguments: 'x' and 'q'")
  let q ← match p 1 "q" with
    | some d => pure d
    | none => throw (Fault.raised .typeError "qcut() missing 1 required positional argument: 'q'")
  let retbins ← flagArg (p 3 "retbins") false
  let precision ← match p 4 "precision" with
    | some d => pure (← Strings.intArg d).toNat
    | none => pure 3
  let duplicates ← textArg (p 5 "duplicates") "raise"
  let fractions ← if isArray q then pure ((valuesOf q).map Value.toDouble)
    else do
      let n ← Strings.intArg q
      pure (Binning.spaced 0.0 1.0 n.toNat)
  let xs ← numbersToBin x
  let sorted := ((xs.filter fun v => !v.isNaN).toList.mergeSort fun a b => a ≤ b).toArray
  let edges := fractions.map fun f => Value.float (linearQuantile sorted (f * 100.0 / 100.0))
  binned rows x edges .float64 true true (p 2 "labels") precision duplicates true retbins

def levelsOf (c : Column) : List Value :=
  let present := uniqueValues (c.cells.toList.filter (!·.isMissing))
  present.mergeSort fun a b => a.sortOrder b != .gt

/-- `pd.get_dummies` of one column. -/
def dummies (rows : Array Value) (args : List Datum) (kwargs : List (String × Datum)) :
    Outcome Datum := do
  let p := param args kwargs
  let data ← match p 0 "data" with
    | some d => pure d
    | none => throw (Fault.raised .typeError "get_dummies() missing 1 required positional argument: 'data'")
  let lead ← match p 1 "prefix" with
    | none | some (.scalar .none) => pure none
    | some (.scalar v) => pure (some v.text)
    | some d => throw (Fault.inner .typeError s!"prefix must be a string, not {d.kindName}")
  let sep ← textArg (p 2 "prefix_sep") "_"
  let withMissing ← flagArg (p 3 "dummy_na") false
  let dropFirst ← flagArg (p 6 "drop_first") false
  let o := ownerOf rows data
  let levels := levelsOf o.col
  let levels := if withMissing then levels ++ [Value.nan] else levels
  let levels := if dropFirst then levels.drop 1 else levels
  let column (level : Value) : Column :=
    let label := match lead with
      | some pre => Value.str (pre ++ sep ++ level.text)
      | none => level
    let cells := o.col.cells.map fun v =>
      Value.bool (if level.isMissing then v.isMissing else !v.isMissing && Value.sameEntry v level)
    { label, dtype := .bool, cells }
  let labels := if isSeries data then o.labels else Table.rangeIndex o.col.size
  pure (.frame (levels.map column) labels)

/-- `pd.Categorical(values, categories)`: a categorical array; values outside given categories are
missing. -/
def categorical (rows : Array Value) (args : List Datum) (kwargs : List (String × Datum)) :
    Outcome Datum := do
  let p := param args kwargs
  let vs := valuesOf ((p 0 "values").getD (.seq true []))
  let cells := match p 1 "categories" with
    | none | some (.scalar .none) => vs
    | some cats =>
      let cs := valuesOf cats
      vs.map fun v => if cs.any (Value.sameEntry v) then v else Value.nan
  let _ := rows
  pure (.array { label := .none, dtype := .category, cells } .values)

def maskedKind (vs : Array Value) : DType :=
  let present := vs.filter (!·.isMissing)
  if present.isEmpty then .nullable .float64
  else if present.all (· matches .bool _) then .nullable .bool
  else if present.all (· matches .int _) then .nullable .int64
  else if present.all fun v => v matches .int _ || v matches .float _ then .nullable .float64
  else if present.all (· matches .str _) then .text
  else .object

def arrayOf (rows : Array Value) (args : List Datum) (kwargs : List (String × Datum)) :
    Outcome Datum := do
  let p := param args kwargs
  let data ← match p 0 "data" with
    | some d => pure d
    | none => throw (Fault.raised .typeError "array() missing 1 required positional argument: 'data'")
  if !isArray data then
    throw (Fault.inner .valueError s!"Cannot pass scalar '{(data.texts rows 8).1}' to 'pandas.array'.")
  let o := ownerOf rows data
  match p 1 "dtype" with
  | none | some (.scalar .none) =>
    if isSeries data || data matches .array _ _ then pure (.array { o.col with label := .none } .values)
    else
      let vs := valuesOf data
      let kind := maskedKind vs
      let c := Column.infer .none vs
      if kind == .object then pure (.array c .values)
      else if kind == .text then
        let texts : Column := { label := .none, dtype := .text, cells := vs.map fun v => if v.isMissing then Value.na else v }
        pure (.array texts .values)
      else pure (.array (← castToType c kind) .values)
  | some d => pure (.array (← castTo { o.col with label := .none } (← kindNamed d)) .values)

/-- `pd.DataFrame(data)` from a dictionary of columns or a list of rows. -/
def frame (rows : Array Value) (args : List Datum) (kwargs : List (String × Datum)) :
    Outcome Datum := do
  let p := param args kwargs
  match (p 0 "data").getD (.mapping []) with
  | .mapping es =>
    let labelled := es.findSome? fun (_, v) => match v with
      | .column _ => some rows
      | .series _ ls => some ls
      | _ => none
    let sized := es.findSome? fun (_, v) => if isArray v then some (valuesOf v).size else none
    let labels ← match labelled, sized with
      | some ls, _ => pure ls
      | none, some n => pure (Table.rangeIndex n)
      | none, none =>
        if es.isEmpty then pure #[]
        else throw (Fault.inner .valueError "If using all scalar values, you must pass an index")
    let cols ← es.mapM fun (k, v) => do
      let label := k.toCell rows 8
      if isArray v then
        let c := (ownerOf rows v).col
        if c.size != labels.size then throw (Fault.inner .valueError "All arrays must be of the same length")
        pure { c with label }
      else
        let x := (valuesOf v).getD 0 .none
        pure (Column.infer label (Array.replicate labels.size x))
    pure (.frame cols labels)
  | .seq _ items =>
    let lines := items.map valuesOf
    let width := lines.foldl (fun m r => max m r.size) 0
    let cols := (List.range width).map fun (j : Nat) =>
      Column.infer (.int j) (lines.toArray.map fun r => r.getD j .none)
    pure (.frame cols (Table.rangeIndex lines.length))
  | d => throw (Fault.inner .valueError s!"DataFrame constructor not properly called! Got {d.kindName}")

def spans (args : List Datum) (kwargs : List (String × Datum)) : Outcome Datum := do
  let p := param args kwargs
  let span (d : Option Datum) : Outcome (Option Int) := do
    match d with
    | none | some (.scalar .none) => pure none
    | some (.scalar v) | some (.element v _) =>
      match ← spanOf 1 v with
      | .span ns => pure (some ns)
      | _ => pure none
    | some d => throw (Fault.inner .valueError s!"Value must be Timedelta, string, integer, float, timedelta or convertible, not {d.kindName}")
  let start ← span (p 0 "start")
  let stop ← span (p 1 "end")
  let periods ← match p 2 "periods" with
    | none | some (.scalar .none) => pure none
    | some d => pure (some (← Strings.intArg d))
  let freqText := match p 3 "freq" with
    | some (.scalar (.str f)) => f
    | _ => "D"
  let step ← match Time.frequencyNanos freqText with
    | .ok n => pure n
    | .error m => throw (Fault.inner .valueError m)
  let count ← match start, stop, periods with
    | some a, some b, none => pure ((b - a) / step + 1)
    | some _, none, some n | none, some _, some n => pure n
    | _, _, _ => throw threeOfFour
  let first := match start, stop with
    | some a, _ => a
    | none, some b => b - (count - 1) * step
    | none, none => 0
  let cells := (Array.range (max 0 count).toNat).map fun (i : Nat) => Value.span (first + i * step)
  pure (.array { label := .none, dtype := .duration, cells }
    (.labels (some (Time.frequencyText freqText step))))

/-- A calendar offset of `pd.offsets` or `pd.DateOffset`. -/
def offsetOf (kind : String) (args : List Datum) (kwargs : List (String × Datum)) :
    Outcome Datum := do
  let p := param args kwargs
  let whole (d : Option Datum) (default : Int) : Outcome Int :=
    match d with
    | none | some (.scalar .none) => pure default
    | some d => Strings.intArg d
  let n ← whole (p 0 "n") 1
  let tick (unit : Int) : Outcome Datum := pure (.scalar (.span (n * unit)))
  match kind with
  | "Day" => tick Time.nsPerDay
  | "Hour" => tick Time.nsPerHour
  | "Minute" => tick Time.nsPerMinute
  | "Second" => tick Time.nsPerSecond
  | "Milli" => tick 1000000
  | "Micro" => tick 1000
  | "Nano" => tick 1
  | _ =>
  let anchor ← match kind with
    | "MonthEnd" => pure (some Time.Anchor.monthEnd)
    | "MonthBegin" => pure (some Time.Anchor.monthBegin)
    | "QuarterEnd" => pure (some (Time.Anchor.quarterEnd (← whole (p 2 "startingMonth") 3).toNat))
    | "QuarterBegin" => pure (some (Time.Anchor.quarterBegin (← whole (p 2 "startingMonth") 3).toNat))
    | "YearEnd" => pure (some (Time.Anchor.yearEnd (← whole (p 2 "month") 12).toNat))
    | "YearBegin" => pure (some (Time.Anchor.yearBegin (← whole (p 2 "month") 1).toNat))
    | "Week" =>
      match p 2 "weekday" with
      | none | some (.scalar .none) => pure (some (Time.Anchor.week none))
      | some d => pure (some (Time.Anchor.week (some (← Strings.intArg d).toNat)))
    | "BusinessDay" | "BDay" => pure (some Time.Anchor.businessDay)
    | _ => pure none
  let unit (k : String) : Outcome Int := whole ((kwargs.find? (·.1 == k)).map (·.2)) 0
  let o : Time.Offset := { n, anchor }
  if anchor.isSome then return .offset o
  for (k, _) in kwargs do
    if !(["n", "normalize", "years", "months", "weeks", "days", "hours", "minutes", "seconds",
        "microseconds", "nanoseconds"].contains k) then
      throw (Fault.inner .valueError s!"Invalid argument/s or bad combination of arguments: ['{k}']")
  let years ← unit "years"
  let months ← unit "months"
  let weeks ← unit "weeks"
  let days ← unit "days"
  let hours ← unit "hours"
  let minutes ← unit "minutes"
  let seconds ← unit "seconds"
  let microseconds ← unit "microseconds"
  let nanoseconds ← unit "nanoseconds"
  pure (.offset { o with years, months, weeks, days, hours, minutes, seconds, microseconds, nanoseconds })

def call (rows : Array Value) (name : String) (args : List Datum)
    (kwargs : List (String × Datum)) : Outcome Datum :=
  let args := args.map Datum.plain
  let kwargs := kwargs.map fun (k, v) => (k, v.plain)
  match name with
  | "cut" => cut rows args kwargs
  | "qcut" => qcut rows args kwargs
  | "get_dummies" => dummies rows args kwargs
  | "Categorical" => categorical rows args kwargs
  | "array" => arrayOf rows args kwargs
  | "DataFrame" => frame rows args kwargs
  | "timedelta_range" => spans args kwargs
  | "DateOffset" => offsetOf "DateOffset" args kwargs
  | _ =>
    if name.startsWith "offsets." then offsetOf (name.drop 8).toString args kwargs
    else callTable rows name args kwargs

end TableLibrary

end PipeQuery.Calc
