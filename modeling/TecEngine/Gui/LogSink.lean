import TecEngine.Gui.Console

/-!
# The log on the console

`main` builds its logger with two sinks, the standard output and a `ConsoleSink` on the
console, at the level `ParseLogLevel` reads from the command line: `info`, or `debug` after a
`-v`, or `trace` after a `-vv`, the last of these flags deciding. The logger passes a message to
its sinks when the message's level is at or above its own (`spdlog`'s `should_log`, with the
levels in the order of `spdlog::level::level_enum`), and the console's sink prints it with
`Println`, after a prefix and in a colour chosen by its level.

## Main definitions

* `LogLevel`, `parseLogLevel`: the levels of `spdlog`, and `ParseLogLevel`
* `consoleSinkLine`, `consoleSinkLog`: `ConsoleSink::log`
* `logCall`: a message through `main`'s logger

## Main results

* `parseLogLevel_eq`: the last `-v` or `-vv` after the program's name decides the level
* `log_last_lines`: the console shows the latest 4096 messages at or above that level
-/

namespace TecEngine

/-- A level of `spdlog::level::level_enum`. -/
inductive LogLevel
  | trace
  | debug
  | info
  | warn
  | err
  | critical
  | off
  deriving DecidableEq, Repr

/-- The value of a level in `spdlog::level::level_enum`. -/
def LogLevel.toNat : LogLevel → Nat
  | .trace => 0
  | .debug => 1
  | .info => 2
  | .warn => 3
  | .err => 4
  | .critical => 5
  | .off => 6

/-- `ParseLogLevel(argc, argv)`: over the arguments after the program's name, `-v` sets
`debug` and `-vv` sets `trace`. -/
def parseLogLevel (argv : List String) : LogLevel :=
  (argv.drop 1).foldl (fun loglevel arg =>
    if arg = "-v" then .debug else if arg = "-vv" then .trace else loglevel) .info

/-- The level an argument sets, if it is a flag `ParseLogLevel` knows. -/
def flagLevel (arg : String) : Option LogLevel :=
  if arg = "-v" then some .debug else if arg = "-vv" then some .trace else none

/-- The loop of `ParseLogLevel` from the level `loglevel` ends at the level of the last flag, or
at `loglevel` when there is none. -/
theorem foldl_flagLevel (args : List String) (loglevel : LogLevel) :
    args.foldl (fun loglevel arg =>
        if arg = "-v" then .debug else if arg = "-vv" then .trace else loglevel) loglevel =
      ((args.filterMap flagLevel).getLast?).getD loglevel := by
  induction args generalizing loglevel with
  | nil => rfl
  | cons arg args ih =>
    rw [List.foldl_cons, ih, List.filterMap_cons]
    unfold flagLevel
    split_ifs <;> simp [List.getLast?_cons]

/-- **The last flag decides the log level**: `ParseLogLevel` gives the level of the last `-v`
or `-vv` after the program's name, and `info` when there is none. -/
theorem parseLogLevel_eq (argv : List String) :
    parseLogLevel argv = (((argv.drop 1).filterMap flagLevel).getLast?).getD .info :=
  foldl_flagLevel _ _

example : parseLogLevel ["-v", "-vv", "-v"] = .debug ∧ parseLogLevel ["-v"] = .info := by
  decide

/-- The line and colour `ConsoleSink::log` gives a message of level `level`. -/
def consoleSinkLine (level : LogLevel) (payload : String) : ImVec4 × String :=
  match level with
  | .trace => (Console.white, "trace " ++ payload)
  | .debug => (Console.white, "debug " ++ payload)
  | .warn => (⟨255, 48, 0, 255⟩, "WARNING : " ++ payload)
  | .err => (⟨255, 0, 0, 255⟩, "ERROR! " ++ payload)
  | .critical => (⟨255, 0, 0, 255⟩, "CRITICAL ERROR! " ++ payload)
  | _ => (Console.white, payload)

/-- `ConsoleSink::log`: `Println` of that line in that colour. -/
def consoleSinkLog (level : LogLevel) (payload : String) : ConsoleOp :=
  .println (consoleSinkLine level payload).2 (consoleSinkLine level payload).1

/-- A message through `main`'s logger at level `loggerLevel`: the console's call, when the
logger passes the message to its sinks. -/
def logCall (loggerLevel level : LogLevel) (payload : String) : Option ConsoleOp :=
  if loggerLevel.toNat ≤ level.toNat then some (consoleSinkLog level payload) else none

/-- The log prints, in order, the lines of the messages the logger passes on. -/
theorem printedAfter_logCalls (loggerLevel : LogLevel) (lines : List (ImVec4 × String))
    (msgs : List (LogLevel × String)) :
    printedAfter lines (msgs.filterMap fun m => logCall loggerLevel m.1 m.2) =
      lines ++ (msgs.filter fun m => loggerLevel.toNat ≤ m.1.toNat).map
        fun m => consoleSinkLine m.1 m.2 := by
  induction msgs generalizing lines with
  | nil => simp
  | cons m msgs ih =>
    by_cases hm : loggerLevel.toNat ≤ m.1.toNat
    · have hcall : logCall loggerLevel m.1 m.2 = some (consoleSinkLog m.1 m.2) := if_pos hm
      rw [List.filterMap_cons, hcall, printedAfter_cons, ih, List.filter_cons_of_pos (by simpa using hm)]
      simp [consoleSinkLog, ConsoleOp.entry]
    · have hcall : logCall loggerLevel m.1 m.2 = none := if_neg hm
      rw [List.filterMap_cons, hcall, ih, List.filter_cons_of_neg (by simpa using hm)]

/-- **The console shows the latest messages at the level of the command line**: `main`'s log
of any messages on the constructed console completes, and the console holds the lines of the
latest 4096 messages at or above the level `ParseLogLevel` reads from `argv`, each with the
prefix and colour of its level, newest at the front. -/
theorem log_last_lines (argv : List String) (msgs : List (LogLevel × String)) :
    ∃ c, Console.new.run (msgs.filterMap fun m => logCall (parseLogLevel argv) m.1 m.2) = some c ∧
      c.buf.items = ((msgs.filter fun m => (parseLogLevel argv).toNat ≤ m.1.toNat).map
        fun m => consoleSinkLine m.1 m.2).reverse.take 4096 := by
  obtain ⟨c, hc, -, hitems⟩ := @Console.run_last_lines Console.new [] rfl
    (msgs.filterMap fun m => logCall (parseLogLevel argv) m.1 m.2)
  exact ⟨c, hc, by rw [hitems, printedAfter_logCalls, List.nil_append]⟩

end TecEngine
