/-
  `infrastructure/logging.py`: the line that a record is written as, and what the handler of the root
  logger adds to its stream.
-/
import Billing.Lib.JsonLine

namespace Billing

open Py

/-- The levels of the `logging` module. -/
inductive LogLevel where
  | debug
  | info
  | warning
  | error
  | critical
  deriving DecidableEq, Repr

/-- `record.levelno`. -/
def LogLevel.levelno : LogLevel → Nat
  | debug => 10
  | info => 20
  | warning => 30
  | error => 40
  | critical => 50

/-- `record.levelname`. -/
def LogLevel.levelname : LogLevel → String
  | debug => "DEBUG"
  | info => "INFO"
  | warning => "WARNING"
  | error => "ERROR"
  | critical => "CRITICAL"

/-- A `LogRecord`. -/
structure LogRecord where
  /-- The level. -/
  level : LogLevel
  /-- `record.name`, the name of the logger. -/
  name : String
  /-- `record.getMessage()`. -/
  message : String
  /-- The attributes that it was given with `extra`. -/
  extra : Dict String

/-- The attributes that `JsonLogFormatter.format` asks for. -/
def logAttributes : List String := ["correlation_id", "request_id", "service", "env", "version"]

/-- One turn of the loop of `JsonLogFormatter.format`. -/
def LogRecord.addAttribute (record : LogRecord) (payload : Dict String) (key : String) : Dict String :=
  match record.extra.get? key with
  | none => payload
  | some value => payload.set key value

/-- The `payload` of `JsonLogFormatter.format`. -/
def LogRecord.payload (record : LogRecord) : Dict String :=
  logAttributes.foldl record.addAttribute
    [("level", record.level.levelname), ("message", record.message), ("logger", record.name)]

/-- `JsonLogFormatter.format`. -/
def jsonFormat (record : LogRecord) : String := Json.writeDict record.payload

/-- `logging.Formatter("%(levelname)s %(name)s - %(message)s").format`, of a record without a traceback. -/
def plainFormat (record : LogRecord) : String :=
  record.level.levelname ++ " " ++ record.name ++ " - " ++ record.message

/-- What `configure_logging` makes of the root logger. -/
structure RootLogger where
  /-- The formatter of its handler. -/
  format : LogRecord → String
  /-- Its level. -/
  level : LogLevel

/-- `configure_logging`, of `LOG_JSON` and of a `LOG_LEVEL` that is the name of a level. -/
def configureLogging (logJson : Bool) (logLevel : LogLevel) : RootLogger :=
  ⟨if logJson then jsonFormat else plainFormat, logLevel⟩

/-- A record is written when the level lets it through. -/
def RootLogger.lets (logger : RootLogger) (record : LogRecord) : Bool :=
  decide (logger.level.levelno ≤ record.level.levelno)

/-- `StreamHandler.emit`, behind the level of the logger. -/
def RootLogger.handle (logger : RootLogger) (record : LogRecord) (stream : String) : String :=
  if logger.lets record then stream ++ logger.format record ++ "\n" else stream

/-! ## What a payload says -/

theorem LogRecord.get?_addAttribute (record : LogRecord) (payload : Dict String) (k key : String) :
    (record.addAttribute payload k).get? key =
      if k = key then (record.extra.get? key).or (payload.get? key) else payload.get? key := by
  unfold addAttribute
  by_cases hk : k = key
  · subst hk
    rw [if_pos rfl]
    cases record.extra.get? k with
    | none => rfl
    | some value => exact (Dict.get?_set _ _ _ _).trans (if_pos rfl)
  · rw [if_neg hk]
    cases record.extra.get? k with
    | none => rfl
    | some value => exact (Dict.get?_set _ _ _ _).trans (if_neg hk)

/-- **What a payload says**: its own three fields, and the attributes that the record was given. -/
theorem LogRecord.get?_payload (record : LogRecord) (key : String) :
    record.payload.get? key =
      if key ∈ logAttributes then record.extra.get? key
      else if key = "level" then some record.level.levelname
      else if key = "message" then some record.message
      else if key = "logger" then some record.name
      else none := by
  have hloop : ∀ (keys : List String) (payload : Dict String),
      Dict.get? (keys.foldl record.addAttribute payload) key =
        if key ∈ keys then (record.extra.get? key).or (payload.get? key) else payload.get? key := by
    intro keys
    induction keys with
    | nil => exact fun payload => rfl
    | cons k keys ih =>
      intro payload
      rw [List.foldl_cons, ih, get?_addAttribute]
      by_cases hk : k = key
      · rw [if_pos hk, if_pos (List.mem_cons.mpr (Or.inl hk.symm))]
        cases record.extra.get? key with
        | none => simp only [Option.none_or, ite_self]
        | some value => simp only [Option.some_or, ite_self]
      · rw [if_neg hk]
        simp only [List.mem_cons, Ne.symm hk, false_or]
  have hfields : ∀ k ∈ logAttributes, k ≠ "level" ∧ k ≠ "message" ∧ k ≠ "logger" := by decide
  unfold payload
  rw [hloop]
  by_cases hkey : key ∈ logAttributes
  · obtain ⟨hlevel, hmessage, hlogger⟩ := hfields key hkey
    rw [if_pos hkey, if_pos hkey, Dict.get?, if_neg hlevel.symm, Dict.get?, if_neg hmessage.symm,
      Dict.get?, if_neg hlogger.symm, Dict.get?, Option.or_none]
  · rw [if_neg hkey, if_neg hkey]
    simp only [Dict.get?, eq_comm]

/-- A payload has its keys once. -/
theorem LogRecord.nodup_payload (record : LogRecord) : (record.payload.map Prod.fst).Nodup := by
  have hloop : ∀ (keys : List String) (payload : Dict String), (payload.map Prod.fst).Nodup →
      ((keys.foldl record.addAttribute payload).map Prod.fst).Nodup := by
    intro keys
    induction keys with
    | nil => exact fun payload h => h
    | cons k keys ih =>
      intro payload h
      refine ih _ ?_
      unfold addAttribute
      split
      · exact h
      · exact Dict.nodup_keys_set h _ _
  have hstart : ["level", "message", "logger"].Nodup := by decide
  exact hloop logAttributes _ hstart

end Billing
