import TemplateBatch.Proofs.FaultClassification

/-!
Messages arrive as they were sent. The octets that a worker writes for a response are one line, from
which the host reads that response again, and the line that a worker reads from its input is the one
that the host sent, whatever else is on the channel behind it.
-/
namespace TemplateBatch.Worker

theorem octets_respond (r : Response) :
    [Event.wrote (Text.Utf8.encode r.toJson.compact), .wrote [10]].flatMap Event.octets =
      Text.Utf8.encode r.toLine := by
  simpa [Served.output, LoadedModule.renderings] using output_response [] 0 r (.ok ())

theorem trim_toLine (r : Response) : r.toLine = Text.trim r.toLine ++ "\n" := by
  have htrim : Text.trim r.toLine = r.toJson.compact := Json.trim_record_line _
  rw [htrim]
  rfl

/-- What a worker writes for a response is one line, and the host reads the response from it.
Neither the decoding nor the trimming on the way alters a text. -/
theorem response_transmitted (r : Response) :
    ∃ events, (respond r).Does (.ok ()) events ∧
      let octets := events.flatMap Event.octets
      let received := Text.Utf8.decodeLossy octets
      Bytes.IsLine octets ∧
      Text.Utf8.decode? octets = some received ∧
      received = Text.trim received ++ "\n" ∧
      Response.ofText received = .ok r ∧
      Runner.classify (.exited 0) octets [] = .success r := by
  refine ⟨_, does_respond r, ?_⟩
  rw [octets_respond]
  intro octets received
  have hreceived : received = r.toLine := Text.Utf8.decodeLossy_encode r.toLine
  refine ⟨Response.isLine_toLine r, ?_, ?_, ?_, Runner.classify_response r⟩
  · rw [hreceived]
    exact Text.Utf8.decode?_encode r.toLine
  · rw [hreceived]
    exact trim_toLine r
  · rw [hreceived]
    exact Response.ofText_toLine r

section Requests
variable (words : Wording) (loader : Loader) (t : FileTree) (base : Location)

/-- A worker answers the request of the first line and looks at nothing behind it. -/
theorem handle_toLine (preload : List Path) (q : Request) (rest : Bytes) :
    handle words loader t base preload (Text.Utf8.encode q.toLine ++ rest) =
      answer words loader t base preload q >>= respond := by
  have hread := readRequest_toLine words q rest
  simp only [handle, hread, Noted.ofExcept, pure_bind]

theorem run_toLine (vs : Variables) (executable : Except SystemError Path) (q : Request)
    (rest : Bytes) :
    run words loader t base vs executable (Text.Utf8.encode q.toLine ++ rest) =
      run words loader t base vs executable (Text.Utf8.encode q.toLine) := by
  have hhandle : ∀ preload,
      handle words loader t base preload (Text.Utf8.encode q.toLine ++ rest) =
        handle words loader t base preload (Text.Utf8.encode q.toLine) := by
    intro preload
    rw [handle_toLine, ← List.append_nil (Text.Utf8.encode q.toLine), handle_toLine]
  simp only [run, serve, hhandle]

end Requests

/-- The line that a worker reads is the request as it was sent, and what it reads from that line is
the request itself. What follows on the channel has no part in what the worker does. -/
theorem request_transmitted (q : Request) (rest : Bytes) :
    let sent := Text.Utf8.encode q.toLine
    firstLine (sent ++ rest) = sent ∧
    Text.Utf8.decode? sent = some q.toLine ∧
    Request.ofText? (Text.trim q.toLine) = some q ∧
    ∀ words loader t base,
      (∀ preload, handle words loader t base preload (sent ++ rest) =
        answer words loader t base preload q >>= respond) ∧
      ∀ vs executable, run words loader t base vs executable (sent ++ rest) =
        run words loader t base vs executable sent := by
  intro sent
  have htrim : Text.trim q.toLine = q.toJson.compact := Json.trim_record_line _
  refine ⟨firstLine_request q rest, Text.Utf8.decode?_encode q.toLine, ?_, ?_⟩
  · rw [htrim]
    exact Request.ofText?_compact q
  · intro words loader t base
    exact ⟨fun preload => handle_toLine words loader t base preload q rest,
      fun vs executable => run_toLine words loader t base vs executable q rest⟩

end TemplateBatch.Worker
