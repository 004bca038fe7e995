import TemplateBatch.Proofs.JsonRoundTrip
import TemplateBatch.Proofs.Utf8
import TemplateBatch.RunConfiguration
import TemplateBatch.Worker.Serve

/-!
What host and worker write to each other is read as it was meant. A message is one line: the text of
its value holds no line feed, and trimming takes away nothing but the one at its end. Whatever
follows a request on the channel stays unread. A run configuration is a document of several lines.
-/
namespace TemplateBatch

namespace Text

/-- Trimming stops at the outermost characters that are not white space. -/
theorem trimChars_between (c d : Char) (inner tail : List Char) (hc : isBlank c = false)
    (hd : isBlank d = false) (htail : ∀ x ∈ tail, isBlank x = true) :
    trimChars (c :: (inner ++ d :: tail)) = c :: (inner ++ [d]) := by
  have hstart : dropBlank (c :: (inner ++ d :: tail)) = c :: (inner ++ d :: tail) := by
    simp [dropBlank, hc]
  have hreverse : (c :: (inner ++ d :: tail)).reverse =
      tail.reverse ++ d :: (inner.reverse ++ [c]) := by
    simp
  have hdrop : (tail.reverse ++ d :: (inner.reverse ++ [c])).dropWhile isBlank =
      d :: (inner.reverse ++ [c]) := by
    rw [List.dropWhile_append_of_pos fun x hx => htail x (List.mem_reverse.mp hx)]
    simp [hd]
  rw [trimChars, hstart, dropBlankEnd, hreverse, hdrop]
  simp

end Text

/-- Octets that hold one line feed, the last of them. -/
def Bytes.IsLine (octets : Bytes) : Prop :=
  ∃ body, octets = body ++ [10] ∧ (10 : UInt8) ∉ body

namespace Json

theorem isLine_compact (j : Json) (hj : Textual j) :
    Bytes.IsLine (Text.Utf8.encode (j.compact ++ "\n")) := by
  refine ⟨Text.Utf8.encode j.compact, ?_, ?_⟩
  · rw [Text.Utf8.encode_append]
    rfl
  · apply Text.Utf8.not_mem_encode
    simpa [compact] using feed_not_mem_compactChars j hj

/-- The line of a record loses its line feed and nothing else. -/
theorem trim_record_line (members : List (String × Json)) :
    Text.trim ((record members).compact ++ "\n") = (record members).compact := by
  have hline : ((record members).compact ++ "\n").toList =
      '\x7b' :: (compactMembers (members.map fun m => (some m.1.toList, m.2)) ++
        '\x7d' :: ['\n']) := by
    simp [compact, record, compactChars]
  have hfeed : ∀ x ∈ ['\n'], Text.isBlank x = true := by
    intro x hx
    rw [List.mem_singleton.mp hx]
    decide
  rw [Text.trim, hline,
    Text.trimChars_between '\x7b' '\x7d' _ ['\n'] (by decide) (by decide) hfeed]
  simp [compact, record, compactChars]

theorem compact_record_ne_empty (members : List (String × Json)) :
    (record members).compact ≠ "" := by
  intro h
  have hchars := congrArg String.toList h
  simp [compact, record, compactChars] at hchars

end Json

namespace Response

theorem item?_itemJson (item : RenderedItem) : item? (itemJson item) = some item := by
  have hfields := Json.fields?_record
    [("ClassName", .text item.className), ("RenderedText", .text item.text)] (by simp)
  simp only [List.map_cons, List.map_nil] at hfields
  simp [item?, itemJson, hfields, Json.Field.required?, Json.text?_text]

theorem textual_itemJson (item : RenderedItem) : Json.Textual (itemJson item) := by
  apply Json.textual_record
  intro m hm
  simp only [List.mem_cons, List.not_mem_nil, or_false] at hm
  rcases hm with rfl | rfl
  · exact Json.textual_text item.className
  · exact Json.textual_text item.text

theorem textual_toJson (r : Response) : Json.Textual r.toJson := by
  apply Json.textual_record
  intro m hm
  rw [List.mem_singleton.mp hm]
  apply Json.Textual.array
  intro j hj
  obtain ⟨item, _, rfl⟩ := List.mem_map.mp hj
  exact textual_itemJson item

theorem ofJson?_toJson (r : Response) : ofJson? r.toJson = some r := by
  have hfields := Json.fields?_record [("Items", .array (r.items.map itemJson))] (by simp)
  simp only [List.map_cons, List.map_nil] at hfields
  simp [ofJson?, toJson, hfields, Json.Field.required?,
    Json.listOf?_array item? itemJson r.items item?_itemJson]

theorem ofText_toLine (r : Response) : ofText r.toLine = .ok r := by
  have htrim : Text.trim r.toLine = r.toJson.compact := Json.trim_record_line _
  have hne : r.toJson.compact ≠ "" := Json.compact_record_ne_empty _
  have hnull : Json.nullable? ofJson? r.toJson = some (some r) := by
    rw [toJson, Json.record, Json.nullable?]
    · rw [← Json.record, ← toJson, ofJson?_toJson]
      rfl
    · intro h
      exact Json.noConfusion h
  simp only [ofText, htrim, hne, if_false, Json.read?_compact _ (textual_toJson r),
    Option.bind_some, hnull]

theorem isLine_toLine (r : Response) : Bytes.IsLine (Text.Utf8.encode r.toLine) :=
  Json.isLine_compact r.toJson (textual_toJson r)

theorem ofText_decodeLossy_encode_toLine (r : Response) :
    ofText (Text.Utf8.decodeLossy (Text.Utf8.encode r.toLine)) = .ok r := by
  rw [Text.Utf8.decodeLossy_encode, ofText_toLine]

end Response

namespace Request

theorem path?_text (p : Path) : path? (.text p.text) = some p := by
  simp [path?, Json.text?_text]

theorem textual_toJson (q : Request) : Json.Textual q.toJson := by
  apply Json.textual_record
  intro m hm
  simp only [List.mem_cons, List.not_mem_nil, or_false] at hm
  rcases hm with rfl | rfl
  · exact Json.textual_text q.compiled.text
  · apply Json.Textual.array
    intro j hj
    obtain ⟨p, _, rfl⟩ := List.mem_map.mp hj
    exact Json.textual_text p.text

theorem isLine_toLine (q : Request) : Bytes.IsLine (Text.Utf8.encode q.toLine) :=
  Json.isLine_compact q.toJson (textual_toJson q)

theorem ofJson?_toJson (q : Request) : ofJson? q.toJson = some q := by
  have hfields := Json.fields?_record
    [("AssemblyPath", .text q.compiled.text),
      ("References", .array (q.references.map fun p => .text p.text))] (by simp)
  simp only [List.map_cons, List.map_nil] at hfields
  simp [ofJson?, toJson, hfields, Json.Field.required?, Json.Field.orElse?, path?_text,
    Json.listOf?_array path? (fun p => .text p.text) q.references path?_text]

theorem ofText?_compact (q : Request) : ofText? q.toJson.compact = some q := by
  rw [ofText?, Json.read?_compact _ (textual_toJson q), Option.bind_some, ofJson?_toJson]

end Request

namespace RunConfiguration

theorem linkageJson?_text (linkage : Linkage) :
    linkageJson? (.text linkage.text) = some linkage := by
  cases linkage <;> decide

theorem pathJson?_text (p : Path) : pathJson? (.text p.text) = some p := by
  simp [pathJson?, Json.text?_text]

/-- The members of a run configuration. -/
def members (c : RunConfiguration) : List (String × Json) :=
  [("name", .text c.name), ("linkage", .text c.linkage.text),
    ("searchDirectories", .array (c.searchDirectories.map fun p => .text p.text))]

theorem textual_toJson (c : RunConfiguration) : Json.Textual c.toJson := by
  have hmembers : Json.Textual (.record c.members) := by
    apply Json.textual_record
    intro m hm
    simp only [members, List.mem_cons, List.not_mem_nil, or_false] at hm
    rcases hm with rfl | rfl | rfl
    · exact Json.textual_text c.name
    · exact Json.textual_text c.linkage.text
    · apply Json.Textual.array
      intro j hj
      obtain ⟨p, _, rfl⟩ := List.mem_map.mp hj
      exact Json.textual_text p.text
  apply Json.textual_record
  intro m hm
  rw [List.mem_singleton.mp hm]
  exact hmembers

theorem runtime?_members (c : RunConfiguration) : runtime? (.record c.members) = some c := by
  have hfields := Json.fields?_record c.members (by simp [members])
  simp only [members, List.map_cons, List.map_nil] at hfields
  simp [runtime?, members, hfields, Json.Field.required?, Json.Field.orElse?, Json.text?_text,
    linkageJson?_text,
    Json.listOf?_array pathJson? (fun p => .text p.text) c.searchDirectories pathJson?_text]

theorem ofText?_toText (c : RunConfiguration) : ofText? c.toText = some c := by
  have hfields := Json.fields?_record [("runtime", .record c.members)] (by simp)
  simp only [List.map_cons, List.map_nil] at hfields
  have hread : Json.read? c.toText = some c.toJson := Json.read?_pretty _ (textual_toJson c)
  have hjson : c.toJson = .record [("runtime", .record c.members)] := rfl
  rw [ofText?, hread, Option.bind_some, hjson]
  simp [ofJson?, hfields, Json.Field.orElse?, runtime?_members]

/-- Nothing of a run configuration is lost in its document, nor in the octets of that, and no other
configuration has the same document. -/
theorem document_restored (c : RunConfiguration) :
    ofText? c.toText = some c ∧
      (Text.Utf8.decode? (Text.Utf8.encode c.toText)).bind ofText? = some c ∧
      ∀ c' : RunConfiguration, c'.toText = c.toText → c' = c := by
  refine ⟨c.ofText?_toText, ?_, fun c' hsame => ?_⟩
  · rw [Text.Utf8.decode?_encode, Option.bind_some, ofText?_toText]
  · have hread : ofText? c.toText = some c' := hsame ▸ c'.ofText?_toText
    exact Option.some.inj (hread.symm.trans c.ofText?_toText)

end RunConfiguration

namespace Worker

/-- Up to the first line feed, whatever comes behind it. -/
theorem firstLine_append (line rest : Bytes) (hline : (10 : UInt8) ∉ line) :
    firstLine (line ++ 10 :: rest) = line ++ [10] := by
  induction line with
  | nil => rfl
  | cons b line ih =>
    simp only [List.mem_cons, not_or] at hline
    simp [firstLine, Ne.symm hline.1, ih hline.2]

theorem firstLine_request (q : Request) (rest : Bytes) :
    firstLine (Text.Utf8.encode q.toLine ++ rest) = Text.Utf8.encode q.toLine := by
  obtain ⟨body, hbody, hfeed⟩ := Request.isLine_toLine q
  rw [hbody, List.append_assoc]
  exact firstLine_append body rest hfeed

theorem readRequest_toLine (words : Wording) (q : Request) (rest : Bytes) :
    readRequest words (Text.Utf8.encode q.toLine ++ rest) = .ok (some q) := by
  have htrim : Text.trim q.toLine = q.toJson.compact := Json.trim_record_line _
  have hne : q.toJson.compact ≠ "" := Json.compact_record_ne_empty _
  simp only [readRequest, firstLine_request, Text.Utf8.decode?_encode, htrim, hne, if_false,
    Request.ofText?_compact]

end Worker
end TemplateBatch
