import Cleave.Shell.Awk.Run

/-!
# The program `awk`

The statements of a script, and the program that applies its rules to the records of files.
-/

namespace Cleave.Shell.Awk

/-- The largest number of rounds of a loop. -/
def maxRounds : Nat := 1000000

/-- Repeats a body while a condition holds. -/
def repeated (condition : Run → Run × Bool) (body after : Run → Run) :
    (fuel : Nat) → (checked : Bool) → Run → Run
  | 0, _, r => r
  | fuel + 1, checked, r =>
    let (r, more) := if checked then condition r else (r, true)
    if !more then r
    else
      let r := body r
      match r.leaving with
      | none => repeated condition body after fuel true (after r)
      | some .round => repeated condition body after fuel true (after { r with leaving := none })
      | some .loop => { r with leaving := none }
      | some _ => r

/-- Runs a body for each of some keys. -/
def repeatedFor (body : Run → Text → Run) : List Text → Run → Run
  | [], r => r
  | key :: keys, r =>
    let r := body r key
    match r.leaving with
    | none => repeatedFor body keys r
    | some .round => repeatedFor body keys { r with leaving := none }
    | some .loop => { r with leaving := none }
    | some _ => r

/-- The file that output goes to. -/
def target (r : Run) : Option (Bool × Expr) → Run × Option (Bool × Text)
  | none => (r, none)
  | some (append, e) =>
    let (r, v) := eval r e
    (r, some (append, v.toText))

mutual

/-- Carries out a statement. -/
def exec (r : Run) : Statement → Run
  | .print args file =>
    let (r, values) := evalAll r args
    let line := if args.isEmpty then r.record else Text.join (r.setting "OFS") (values.map Datum.toText)
    let (r, file) := target r file
    r.put (Utf8.encode (line ++ r.setting "ORS")) file
  | .printf args file =>
    let (r, values) := evalAll r args
    let (r, file) := target r file
    let t := (values.head?.getD .unset).toText
    r.put (format (t.length + 1) t (values.drop 1)) file
  | .eval e => (eval r e).1
  | .branch c yes no =>
    let (r, v) := eval r c
    if v.isTrue then execAll r yes else execAll r no
  | .loop bodyFirst start c after body =>
    let condition (r : Run) : Run × Bool := match c with
      | some e => let (r, v) := eval r e; (r, v.isTrue)
      | none => (r, true)
    repeated condition (fun r => execAll r body) (fun r => execAll r after) maxRounds (!bodyFirst) (execAll r start)
  | .each name table body =>
    repeatedFor (fun r key => execAll (r.setValue name (.input key)) body) ((r.table table).map Prod.fst) r
  | .next => { r with leaving := some .record }
  | .exit none => { r with leaving := some .script }
  | .exit (some e) =>
    let (r, v) := eval r e
    { r with leaving := some .script, status := v.toNumber.toUInt64.toNat % 256 }
  | .leaveLoop => { r with leaving := some .loop }
  | .leaveRound => { r with leaving := some .round }
  | .delete table none => r.setTable table []
  | .delete table (some key) =>
    let (r, parts) := evalAll r key
    r.setTable table ((r.table table).filter (·.1 != keyOf parts))

/-- Carries out statements until one leaves them. -/
def execAll (r : Run) : List Statement → Run
  | [] => r
  | s :: ss =>
    let r := exec r s
    if r.leaving.isSome then r else execAll r ss

end

/-- Whether a rule with an index applies to the record. -/
def Rule.applies (rule : Rule) (index : Nat) (r : Run) : Run × Bool :=
  match rule.condition with
  | .atStart => (r, false)
  | .atEnd => (r, false)
  | .always => (r, true)
  | .holds e => let (r, v) := eval r e; (r, v.isTrue)
  | .between first last =>
    let (r, opened) := if r.opened.contains index then (r, true)
      else let (r, v) := eval r first; (r, v.isTrue)
    if !opened then (r, false)
    else
      let (r, v) := eval r last
      let others := r.opened.filter (· != index)
      ({ r with opened := if v.isTrue then others else index :: others }, true)

/-- Carries out the statements of a rule. -/
def Rule.run (rule : Rule) (r : Run) : Run :=
  execAll r (rule.body.getD [.print [] none])

/-- Applies rules to the record, until one leaves it. -/
def applyRules (r : Run) : List (Rule × Nat) → Run
  | [] => r
  | (rule, index) :: rest =>
    let (r, applies) := rule.applies index r
    let r := if applies then rule.run r else r
    if r.leaving.isSome then r else applyRules r rest

/-- Carries out rules that are for no record. -/
def runRules (rules : List Rule) (r : Run) : Run :=
  rules.foldl (fun r rule => if r.leaving.isSome then r else rule.run r) r

/-- The records of a text: lines, parts between another character, or blocks between empty lines. -/
def records (separator : Text) (t : Text) : List Text :=
  match separator with
  | [] =>
    let blocks := (Text.pieces '\n' t).splitBy fun a b => (a == []) == (b == [])
    (blocks.filter fun b => b.head? != some []).map (Text.join ['\n'])
  | c :: _ =>
    let parts := Text.pieces c t
    if parts.getLast? = some [] then parts.dropLast else parts

/-- Counts up a variable. -/
def Run.count (r : Run) (name : String) : Run :=
  r.setValue name.toList (.number ((r.value name.toList).toNumber + 1))

/-- Applies rules to the records of a file. -/
def runFile (rules : List Rule) (r : Run) (name : Text) (bytes : Bytes) : Run :=
  let start := (r.setValue "FILENAME".toList (.text name)).setValue "FNR".toList (.number 0)
  (records (r.setting "RS") (Utf8.decodeLenient bytes)).foldl (fun r t =>
    if r.leaving.isSome then r
    else
      let r := applyRules (((r.withRecord t).count "NR").count "FNR") rules.zipIdx
      if r.leaving = some .record then { r with leaving := none } else r) start

/-- The name and the value of a setting. -/
def setting? (t : Text) : Option (Text × Text) :=
  let name := t.takeWhile fun c => c.isAlphanum || c == '_'
  if name != [] && !(name.head?.any Char.isDigit) && t[name.length]? = some '=' then
    let value := t.drop (name.length + 1)
    some (name, ((quoted (value.length + 2) (value ++ ['"'])).map Prod.fst).getD value)
  else none

/-- The variables at the start. -/
def initialValues : List (Text × Datum) :=
  [("FS".toList, .text [' ']), ("OFS".toList, .text [' ']), ("ORS".toList, .text ['\n']), ("RS".toList, .text ['\n']),
   ("NR".toList, .number 0), ("FNR".toList, .number 0), ("SUBSEP".toList, .text ['\x1c'])]

end Awk

/-- Applies the rules of a script to the records of files, or of its input. -/
def awk : Program := fun w args input =>
  let o := Options.of "Fvf" args
  let (options, operands) := (o.values, o.rest)
  let script := match o.value? 'f' with
    | some file => (w.disk.read w.cwd ⟨file⟩).toOption.map Utf8.decodeLenient
    | none => operands.head?
  let operands := if (o.value? 'f').isSome then operands else operands.drop 1
  match script with
  | none => .complained w 2 "usage: awk [-F value][-v var=value][--][program-file | program text][file ...]".toList
  | some script =>
    match Awk.read? script with
    | none => .complained w 2 "awk: line 1: syntax error".toList
    | some rules =>
      let start : Awk.Run := { values := Awk.initialValues }
      let assign (r : Awk.Run) (t : Text) : Awk.Run := match Awk.setting? t with
        | some (name, value) => r.setValue name (.input value)
        | none => r
      let start := options.foldl (fun r (c, t) =>
        if c = 'v' then assign r t
        else if c = 'F' then
          let separator := ((Awk.quoted (t.length + 2) (t ++ ['"'])).map Prod.fst).getD t
          r.setValue "FS".toList (.text (if t = ['t'] then ['\t'] else separator))
        else r) start
      let first := Awk.runRules (rules.filter (·.condition matches .atStart)) start
      let main := rules.filter fun rule => !(rule.condition matches .atStart || rule.condition matches .atEnd)
      let last := rules.filter (·.condition matches .atEnd)
      let files := operands.filter fun t => (Awk.setting? t).isNone
      let reads := !(main.isEmpty && last.isEmpty)
      let (r, complaints) : Awk.Run × Text :=
        if !reads || first.leaving.isSome then (first, [])
        else if files = [] then (Awk.runFile main (operands.foldl assign first) [] input, [])
        else
          operands.foldl (fun ((r, complaints) : Awk.Run × Text) t =>
            if (Awk.setting? t).isSome then (assign r t, complaints)
            else if isInput t then (Awk.runFile main r [] input, complaints)
            else match w.disk.read w.cwd ⟨t⟩ with
              | .ok bytes => (Awk.runFile main r t bytes, complaints)
              | .error e => ({ r with status := 2 },
                  complaints ++ "awk: cannot open \"".toList ++ t ++ "\" (".toList ++ shortMessage e ++ ")\n".toList))
            (first, [])
      let r := Awk.runRules last { r with leaving := none }
      let done := r.files.foldl (fun (e : Ended) (name, append, bytes) => e.andThen fun w =>
        let old := if append then (w.disk.read w.cwd ⟨name⟩).toOption.getD [] else []
        perform "awk" w name (Effect.writeFile ⟨name⟩ (old ++ bytes))) { world := w }
      { done with
        status := r.status
        output := r.output.reverse.flatten
        errors := Utf8.encode complaints ++ r.errors.reverse.flatten
        consumed := reads && readsInput files }

end Cleave.Shell
