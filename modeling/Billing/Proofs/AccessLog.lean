/-
  The log as an account of the responses.

  With `LOG_JSON` every record is one line of the stream, whatever its texts are: line feeds are escaped,
  so nobody who chooses a text, a client its headers for one, adds a line or a field to the log.  Read
  line by line the stream is the records that were written, in their order (`logEntries_stream`), and
  the entries of the middleware are the ids that the responses carry.
-/
import Billing.Presentation.Middleware

namespace Billing

open Py

/-! ## What was written -/

/-- The records of an occurrence. -/
def Occurrence.records (app : AppInfo) : Occurrence → List LogRecord
  | .completed _ _ none => []
  | .completed request fresh (some _) =>
    [requestCompleted app (request.correlationId fresh) (request.requestId fresh)]
  | .logged record => [record]

/-- The responses of an occurrence. -/
def Occurrence.responses : Occurrence → List (IncomingRequest × HttpResponse)
  | .completed _ _ none => []
  | .completed request fresh (some response) =>
    [(request, response.withOperationalHeaders (request.correlationId fresh) (request.requestId fresh))]
  | .logged _ => []

/-- The labels that a response is counted under. -/
def labelsOf (response : IncomingRequest × HttpResponse) : RequestLabels :=
  ⟨response.1.method, response.1.path, response.2.statusCode⟩

variable {app : AppInfo} {root : RootLogger}

theorem RootLogger.toList_handle (root : RootLogger) (record : LogRecord) (stream : String) :
    (root.handle record stream).toList = stream.toList ++
      ([record].filter root.lets).flatMap fun record => (root.format record).toList ++ ['\n'] := by
  unfold handle
  by_cases hlets : root.lets record = true
  · rw [if_pos hlets, List.filter_cons_of_pos hlets, List.filter_nil, List.flatMap_singleton,
      String.toList_append, String.toList_append, List.append_assoc]
    rfl
  · rw [if_neg hlets, List.filter_cons_of_neg hlets, List.filter_nil, List.flatMap_nil, List.append_nil]

/-- **What one occurrence does.** -/
theorem Traffic.next_spec (app : AppInfo) (root : RootLogger) (traffic : Traffic)
    (o : Occurrence) :
    (traffic.next app root o).responses = traffic.responses ++ o.responses ∧
      (traffic.next app root o).ops.stream.toList = traffic.ops.stream.toList ++
        ((o.records app).filter root.lets).flatMap (fun record => (root.format record).toList ++ ['\n']) ∧
      ∀ labels, (traffic.next app root o).ops.requestCounter labels =
        traffic.ops.requestCounter labels + (o.responses.map labelsOf).count labels := by
  rcases o with ⟨request, fresh, _ | response⟩ | record
  · refine ⟨rfl, ?_, fun labels => rfl⟩
    exact (List.append_nil _).symm
  · refine ⟨rfl, RootLogger.toList_handle root _ _, fun labels => ?_⟩
    show Function.update traffic.ops.requestCounter _ _ labels = _ + List.count labels [_]
    by_cases hlabels : labels = ⟨request.method, request.path, response.statusCode⟩
    · subst hlabels
      rw [Function.update_self]
      exact congrArg (_ + ·) (List.count_singleton_self).symm
    · rw [Function.update_of_ne hlabels]
      have hnone : List.count labels [RequestLabels.mk request.method request.path response.statusCode] = 0 :=
        List.count_eq_zero.mpr fun hmem => hlabels (List.mem_singleton.mp hmem)
      exact (congrArg (_ + ·) hnone).symm
  · exact ⟨(List.append_nil _).symm, RootLogger.toList_handle root _ _, fun labels => rfl⟩

/-- **What a run does**, by induction on the occurrences. -/
theorem serveAll_spec (app : AppInfo) (root : RootLogger) (occurrences : List Occurrence) :
    (serveAll app root occurrences).responses = occurrences.flatMap Occurrence.responses ∧
      (serveAll app root occurrences).ops.stream.toList =
        ((occurrences.flatMap (Occurrence.records app)).filter root.lets).flatMap
          (fun record => (root.format record).toList ++ ['\n']) ∧
      ∀ labels, (serveAll app root occurrences).ops.requestCounter labels =
        ((serveAll app root occurrences).responses.map labelsOf).count labels := by
  induction occurrences using List.reverseRecOn with
  | nil => exact ⟨rfl, rfl, fun _ => rfl⟩
  | append_singleton occurrences o ih =>
    obtain ⟨hresponses, hstream, hcounter⟩ := ih
    obtain ⟨hresponses', hstream', hcounter'⟩ :=
      (serveAll app root occurrences).next_spec app root o
    have hnext : serveAll app root (occurrences ++ [o]) =
        (serveAll app root occurrences).next app root o := by
      unfold serveAll
      rw [List.foldl_append]
      rfl
    rw [hnext]
    refine ⟨?_, ?_, fun labels => ?_⟩
    · rw [hresponses', hresponses, List.flatMap_append, List.flatMap_singleton]
    · rw [hstream', hstream, List.flatMap_append, List.flatMap_singleton, List.filter_append,
        List.flatMap_append]
    · rw [hcounter', hcounter, hresponses', List.map_append, List.count_append]

/-! ## Reading the log -/

section Reading

variable [Python]

/-- The entries of a log, line by line (`none`: the line is no JSON). -/
def logEntries (stream : String) : List (Option Json) :=
  (fileLines stream.toList).map fun line => Json.loads (String.ofList line)

/-- A stream of records is read line by line. -/
theorem logEntries_records {records : List LogRecord} {stream : String}
    (h : stream.toList = records.flatMap fun record => (jsonFormat record).toList ++ ['\n']) :
    logEntries stream = records.map fun record => some (Json.ofTexts record.payload) := by
  have hlines : (records.flatMap fun record => (jsonFormat record).toList ++ ['\n']) =
      (records.map fun record => (jsonFormat record).toList).flatMap fun line => line ++ ['\n'] := by
    rw [List.flatMap_map]
  have hprintable : ∀ line ∈ records.map fun record => (jsonFormat record).toList,
      ∀ c ∈ line, 32 ≤ c.toNat := by
    intro line hline c hc
    obtain ⟨record, -, rfl⟩ := List.mem_map.mp hline
    exact Json.printable_writeDict hc
  unfold logEntries
  rw [h, hlines, fileLines_stream hprintable, List.map_map]
  refine List.map_congr_left fun record _ => ?_
  have hread : Json.loads (jsonFormat record) = some (Json.ofTexts record.payload) :=
    Json.loads_writeDict record.nodup_payload
  rw [Function.comp_apply, String.ofList_toList, hread]

/-- **The log is the records that were written.** -/
theorem logEntries_stream (app : AppInfo) (logLevel : LogLevel) (occurrences : List Occurrence) :
    logEntries (serveAll app (configureLogging true logLevel) occurrences).ops.stream =
      ((occurrences.flatMap (Occurrence.records app)).filter (configureLogging true logLevel).lets).map
        fun record => some (Json.ofTexts record.payload) := by
  obtain ⟨-, hstream, -⟩ := serveAll_spec app (configureLogging true logLevel) occurrences
  exact logEntries_records hstream

end Reading

/-- The text that an entry has for a key. -/
def textAt (entry : Json) (key : String) : Option String :=
  match entry with
  | .dict d =>
    match Dict.get? d key with
    | some (.str text) => some text
    | _ => none
  | _ => none

/-- The ids in an entry of the middleware's logger. -/
def accessIds (entry : Json) : Option (String × String) :=
  if textAt entry "logger" = some "src.main" then do
    return (← textAt entry "correlation_id", ← textAt entry "request_id")
  else none

/-- The ids in the headers of a response. -/
def responseIds (response : HttpResponse) : Option (String × String) := do
  return (← response.headers.get? "X-Correlation-ID", ← response.headers.get? "X-Request-ID")

theorem textAt_ofTexts (d : Dict String) (key : String) : textAt (Json.ofTexts d) key = d.get? key := by
  unfold textAt Json.ofTexts
  simp only [Json.get?_ofTexts]
  cases Dict.get? d key with
  | none => rfl
  | some text => rfl

theorem accessIds_requestCompleted (correlationId requestId : String) :
    accessIds (Json.ofTexts (requestCompleted app correlationId requestId).payload) =
      some (correlationId, requestId) := by
  unfold accessIds
  simp only [textAt_ofTexts, LogRecord.get?_payload]
  rfl

theorem accessIds_other {record : LogRecord} (h : record.name ≠ "src.main") :
    accessIds (Json.ofTexts record.payload) = none := by
  have hlogger : textAt (Json.ofTexts record.payload) "logger" = some record.name := by
    rw [textAt_ofTexts, LogRecord.get?_payload]
    rfl
  unfold accessIds
  rw [hlogger, if_neg fun heq => h (Option.some.inj heq)]

theorem responseIds_operational (response : HttpResponse) (correlationId requestId : String) :
    responseIds (response.withOperationalHeaders correlationId requestId) =
      some (correlationId, requestId) := by
  have hcorrelation : Dict.get? (operationalHeaders correlationId requestId response.headers)
      "X-Correlation-ID" = some correlationId := by
    unfold operationalHeaders
    simp [Dict.get?_set]
  have hrequest : Dict.get? (operationalHeaders correlationId requestId response.headers)
      "X-Request-ID" = some requestId := by
    unfold operationalHeaders
    simp [Dict.get?_set]
  unfold responseIds HttpResponse.withOperationalHeaders
  simp only [hcorrelation, hrequest]
  rfl

/-- **The log is an account of the responses.**  For every run, whatever headers the clients send and
    whatever other loggers write, with `LOG_JSON` and a level that lets `INFO` through: each line of the
    stream is one record, in order; the lines of the middleware's own logger are the responses that were
    sent, in order, with the ids that their headers carry; and each counter is the number of responses
    with its labels. -/
theorem access_log_faithful [Python] (app : AppInfo) {logLevel : LogLevel} {occurrences : List Occurrence}
    (hlevel : logLevel.levelno ≤ LogLevel.info.levelno)
    (hothers : ∀ record, .logged record ∈ occurrences → record.name ≠ "src.main") :
    logEntries (serveAll app (configureLogging true logLevel) occurrences).ops.stream =
        ((occurrences.flatMap (Occurrence.records app)).filter (configureLogging true logLevel).lets).map
          (fun record => some (Json.ofTexts record.payload)) ∧
      ((logEntries (serveAll app (configureLogging true logLevel) occurrences).ops.stream).filterMap
          fun entry => entry.bind accessIds).map some =
        (serveAll app (configureLogging true logLevel) occurrences).responses.map
          (fun response => responseIds response.2) ∧
      ∀ labels, (serveAll app (configureLogging true logLevel) occurrences).ops.requestCounter labels =
        ((serveAll app (configureLogging true logLevel) occurrences).responses.map labelsOf).count labels := by
  obtain ⟨hresponses, -, hcounter⟩ :=
    serveAll_spec app (configureLogging true logLevel) occurrences
  have hentries := logEntries_stream app logLevel occurrences
  refine ⟨hentries, ?_, hcounter⟩
  rw [hentries, hresponses, List.filterMap_map]
  clear hentries hresponses hcounter
  induction occurrences with
  | nil => rfl
  | cons o occurrences ih =>
    have hrest := ih fun record hrecord => hothers record (List.mem_cons_of_mem _ hrecord)
    rw [List.flatMap_cons, List.flatMap_cons, List.filter_append, List.filterMap_append, List.map_append,
      List.map_append, hrest]
    congr 1
    rcases o with ⟨request, fresh, _ | response⟩ | record
    · rfl
    · have hlets : (configureLogging true logLevel).lets (requestCompleted app
          (request.correlationId fresh) (request.requestId fresh)) = true := decide_eq_true hlevel
      have hids : ((fun entry : Option Json => entry.bind accessIds) ∘ fun record : LogRecord =>
          some (Json.ofTexts record.payload))
            (requestCompleted app (request.correlationId fresh) (request.requestId fresh)) =
          some (request.correlationId fresh, request.requestId fresh) := accessIds_requestCompleted _ _
      show (([requestCompleted app (request.correlationId fresh) (request.requestId fresh)].filter
        _).filterMap _).map some = [responseIds _]
      rw [List.filter_cons_of_pos hlets, responseIds_operational, List.filter_nil, List.filterMap_cons_some hids]
      rfl
    · have hids : ((fun entry : Option Json => entry.bind accessIds) ∘ fun record : LogRecord =>
          some (Json.ofTexts record.payload)) record = none :=
        accessIds_other (hothers record List.mem_cons_self)
      show (([record].filter _).filterMap _).map some = []
      by_cases hlets : (configureLogging true logLevel).lets record = true
      · rw [List.filter_cons_of_pos hlets, List.filter_nil, List.filterMap_cons_none hids]
        rfl
      · rw [List.filter_cons_of_neg hlets]
        rfl

section Samples

open Sample

/-- A client whose correlation id looks like the end of an entry and the start of another one. -/
def Sample.forger : IncomingRequest where
  method := "POST"
  path := "/quotes"
  header name := if name = "X-Correlation-ID" then some "1\"\x7d\n\x7b\"logger\": \"src.main" else none

/-- It is answered once, and once not, while another logger writes two lines. -/
def Sample.forged : List Occurrence :=
  [.completed forger "fresh-1" (some ⟨201, [], []⟩), .logged ⟨.warning, "pika", "lost\nagain", []⟩,
    .completed forger "fresh-2" none]

theorem access_log_faithful_forged :
    ((logEntries (serveAll ⟨"billing", "test", "1.0"⟩ (configureLogging true .info)
        forged).ops.stream).filterMap fun entry => entry.bind accessIds).map some =
      [some ("1\"\x7d\n\x7b\"logger\": \"src.main", "1\"\x7d\n\x7b\"logger\": \"src.main")] := by
  have hothers : ∀ record, .logged record ∈ forged → record.name ≠ "src.main" := by
    intro record hrecord
    simp only [forged, List.mem_cons, Occurrence.logged.injEq, List.not_mem_nil, or_false, reduceCtorEq,
      false_or] at hrecord
    subst hrecord
    decide
  have hlevel : LogLevel.info.levelno ≤ LogLevel.info.levelno := by decide
  exact (access_log_faithful ⟨"billing", "test", "1.0"⟩ hlevel hothers).2.1

end Samples

end Billing
