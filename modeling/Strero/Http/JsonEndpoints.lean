import Strero.Config.Settings
import Strero.Http.EndpointList
import Strero.Lib.JsonWriting

/-!
# The JSON endpoints

`handle_json_request` prints the state and the configuration into a buffer, piece by piece, with
the strings of the configuration as they are. What it sends is JSON from which they are read back
exactly if they have no characters that need an escape, and the list of the endpoints is not cut.
-/

namespace Http

open CString Scanf Snprintf ConfigFile Json

variable {H : Type} {J : JsonC}

/-! ### What is printed -/

/-- What `handle_json_request` reads: the configuration, if there is one, the routes, the port
of the module, the time, and the seconds in `/proc/uptime`. -/
structure JsonSources (J : JsonC) (H : Type) where
  gConfig : Option (Settings J)
  routes : List (Route H)
  port : ℤ
  time : Int64
  uptime : UInt32

/-- The size of `json_buffer`. -/
def jsonBufferSize : ℕ := 2048

/-- `%d` for an `int`, which has 32 bits. -/
def printDec (n : ℤ) : List UInt8 := printInt (Int32.ofInt n).toInt

/-- `? "true" : "false"`. -/
def printBool (b : Bool) : List UInt8 := if b then ascii "true" else ascii "false"

/-- The text for the endpoint `status`. -/
def statusText (time : Int64) (endpoints : List UInt8) : List UInt8 :=
  ascii "\x7b\"status\":\"ok\",\"message\":\"HTTP module active\",\"timestamp\":" ++
    printInt time.toInt ++ ascii ",\"endpoints\":[" ++ endpoints ++ ascii "]\x7d"

/-- The piece for the section `general`. -/
def generalText (g : General) : List UInt8 :=
  ascii "\x7b\"general\":\x7b\"log_level\":\"" ++ g.loglevel.bytes ++ ascii "\"\x7d,"

/-- The piece for a stream. -/
def streamText (fps : ℤ) (i : ℕ) (s : Stream) : List UInt8 :=
  ascii "\x7b\"id\":" ++ printDec i ++ ascii ",\"enabled\":" ++ printBool s.enabled ++
    ascii ",\"resolution\":\"" ++ printDec s.width ++ ascii "x" ++ printDec s.height ++
    ascii "\",\"fps\":" ++ printDec fps ++ ascii ",\"bitrate_kbps\":" ++ printDec s.bitrate ++
    ascii ",\"format\":\"" ++ s.format.bytes ++ ascii "\",\"rtsp_endpoint\":\"" ++
    s.rtspEndpoint.bytes ++ ascii "\"\x7d"

/-- The pieces for the first two streams. -/
def streamTexts (fps : ℤ) (streams : List Stream) : List (List UInt8) :=
  (streams.take 2).zipIdx.flatMap fun (s, i) =>
    (if i > 0 then [ascii ","] else []) ++ [streamText fps i s]

/-- The piece for the section `jpeg`. -/
def jpegText (j : Jpeg) : List UInt8 :=
  ascii "\"jpeg\":\x7b\"enabled\":" ++ printBool j.enabled ++ ascii ",\"quality\":" ++
    printDec j.jpegQuality ++ ascii ",\"channel\":" ++ printDec j.jpegChannel ++
    ascii ",\"path\":\"" ++ j.jpegPath.bytes ++ ascii "\"\x7d,"

/-- The last piece. -/
def apiText (port : ℤ) (endpoints : List UInt8) : List UInt8 :=
  ascii "\"http_api\":\x7b\"port\":" ++ printDec port ++ ascii ",\"endpoints\":[" ++ endpoints ++
    ascii "]\x7d\x7d"

/-- The pieces for the endpoint `config`, in their order. -/
def configTexts (c : Settings J) (port : ℤ) (endpoints : List UInt8) : List (List UInt8) :=
  [generalText c.general, ascii "\"streams\":["] ++ streamTexts c.sensor.fps c.streams ++
    [ascii "],", jpegText c.jpeg, apiText port endpoints]

/-- Pieces are printed into an empty buffer, one behind the other: the string in it then. -/
def printed (size : ℕ) (texts : List (List UInt8)) : Option (List UInt8) :=
  (printAll size texts).map Printed.text

/-- The body that `handle_json_request` sends. There is none if something would be printed
outside of a buffer. -/
def handleJsonRequest (st : JsonSources J H) (endpoint : List UInt8) : Option (List UInt8) :=
  if endpoint = ascii "status" then
    (httpRouterGenerateEndpointList st.routes [] 512).bind fun list =>
      printed jsonBufferSize [statusText st.time list.1]
  else if endpoint = ascii "config" then
    match st.gConfig with
    | none => some (ascii "\x7b\"error\": \"Configuration not available\"\x7d")
    | some c =>
      if c.streams = [] then some (ascii "\x7b\"error\": \"Configuration not available\"\x7d")
      else (httpRouterGenerateEndpointList st.routes [] 1024).bind fun list =>
        printed jsonBufferSize (configTexts c st.port list.1)
  else if endpoint = ascii "info" then
    printed jsonBufferSize
      [ascii "\x7b\"info\":\"thingino-streamer\",\"version\":\"modular\"," ++
        ascii "\"http_module\":\"active\",\"timestamp\":" ++ printInt st.time.toInt ++ ascii "\x7d"]
  else if endpoint = ascii "health" then
    printed 512
      [ascii "\x7b\"health\":\"ok\",\"http_server\":\"running\",\"timestamp\":" ++
        printInt st.time.toInt ++ ascii ",\"uptime_seconds\":" ++ printInt st.uptime.toNat ++
        ascii "\x7d"]
  else some (ascii "\x7b\"error\": \"Unknown endpoint\"\x7d")

/-! ### What is read -/

/-- The strings of the configuration are what is read, each as the only value in its place. -/
structure ReadsBack (c : Settings J) (v : Value) : Prop where
  loglevel : (v.named (ascii "general")).flatMap (Value.named (ascii "log_level")) =
    [.string c.general.loglevel.bytes]
  format : ∀ i s, c.streams[i]? = some s →
    ((v.named (ascii "streams")).flatMap (Value.indexed i)).flatMap
      (Value.named (ascii "format")) = [.string s.format.bytes]
  rtspEndpoint : ∀ i s, c.streams[i]? = some s →
    ((v.named (ascii "streams")).flatMap (Value.indexed i)).flatMap
      (Value.named (ascii "rtsp_endpoint")) = [.string s.rtspEndpoint.bytes]
  jpegPath : (v.named (ascii "jpeg")).flatMap (Value.named (ascii "path")) =
    [.string c.jpeg.jpegPath.bytes]

/-- The state is sent as JSON, and nothing is cut. -/
structure SendsStatus (st : JsonSources J H) : Prop where
  lists : ListsEndpoints st.routes [] 512
  whole : ∀ list, httpRouterGenerateEndpointList st.routes [] 512 = some list →
    PrintsWhole jsonBufferSize [statusText st.time list.1]
  json : ∃ body v, handleJsonRequest st (ascii "status") = some body ∧ Json.Text body v

/-- The configuration is sent as JSON with its strings, and nothing is cut. -/
structure SendsConfig (st : JsonSources J H) (c : Settings J) : Prop where
  lists : ListsEndpoints st.routes [] 1024
  whole : ∀ list, httpRouterGenerateEndpointList st.routes [] 1024 = some list →
    PrintsWhole jsonBufferSize (configTexts c st.port list.1)
  json : ∃ body v, handleJsonRequest st (ascii "config") = some body ∧ Json.Text body v ∧
    ReadsBack c v

/-- There are no more streams than are listed, and no string needs an escape. -/
structure NeedsNoEscape (c : Settings J) : Prop where
  loglevel : Plain c.general.loglevel.bytes
  streams : c.streams.length ≤ 2
  format : ∀ s ∈ c.streams, Plain s.format.bytes
  rtspEndpoint : ∀ s ∈ c.streams, Plain s.rtspEndpoint.bytes
  jpegPath : Plain c.jpeg.jpegPath.bytes

/-! ### The texts as values -/

/-- A path as an element of an array. -/
def pathElement (path : List UInt8) : List UInt8 × Value := (stringText path, .string path)

def statusFields (time : Int64) (paths : List (List UInt8)) : List Field :=
  [.ofString (ascii "status") (ascii "ok"),
    .ofString (ascii "message") (ascii "HTTP module active"),
    .ofInt (ascii "timestamp") time.toInt,
    .ofArray (ascii "endpoints") (paths.map pathElement)]

def generalFields (g : General) : List Field :=
  [.ofString (ascii "log_level") g.loglevel.bytes]

/-- The members of a stream before its strings. -/
def streamNumbers (fps : ℤ) (i : ℕ) (s : Stream) : List Field :=
  [.ofInt (ascii "id") (Int32.ofInt i).toInt,
    .ofBool (ascii "enabled") s.enabled,
    .ofString (ascii "resolution") (printDec s.width ++ ascii "x" ++ printDec s.height),
    .ofInt (ascii "fps") (Int32.ofInt fps).toInt,
    .ofInt (ascii "bitrate_kbps") (Int32.ofInt s.bitrate).toInt]

def formatField (s : Stream) : Field := .ofString (ascii "format") s.format.bytes

def endpointField (s : Stream) : Field := .ofString (ascii "rtsp_endpoint") s.rtspEndpoint.bytes

def streamFields (fps : ℤ) (i : ℕ) (s : Stream) : List Field :=
  streamNumbers fps i s ++ [formatField s, endpointField s]

/-- A stream as an element of an array. -/
def streamElement (fps : ℤ) (i : ℕ) (s : Stream) : List UInt8 × Value :=
  (objectText (streamFields fps i s), .object ((streamFields fps i s).map Field.member))

def streamElements (fps : ℤ) (streams : List Stream) : List (List UInt8 × Value) :=
  (streams.take 2).zipIdx.map fun (s, i) => streamElement fps i s

/-- The members of the section `jpeg` before its path. -/
def jpegNumbers (j : Jpeg) : List Field :=
  [.ofBool (ascii "enabled") j.enabled,
    .ofInt (ascii "quality") (Int32.ofInt j.jpegQuality).toInt,
    .ofInt (ascii "channel") (Int32.ofInt j.jpegChannel).toInt]

def pathField (j : Jpeg) : Field := .ofString (ascii "path") j.jpegPath.bytes

def apiFields (port : ℤ) (paths : List (List UInt8)) : List Field :=
  [.ofInt (ascii "port") (Int32.ofInt port).toInt,
    .ofArray (ascii "endpoints") (paths.map pathElement)]

def generalField (c : Settings J) : Field := .ofObject (ascii "general") (generalFields c.general)

def streamsField (c : Settings J) : Field :=
  .ofArray (ascii "streams") (streamElements c.sensor.fps c.streams)

def jpegField (c : Settings J) : Field :=
  .ofObject (ascii "jpeg") (jpegNumbers c.jpeg ++ [pathField c.jpeg])

def apiField (port : ℤ) (paths : List (List UInt8)) : Field :=
  .ofObject (ascii "http_api") (apiFields port paths)

def configFields (c : Settings J) (port : ℤ) (paths : List (List UInt8)) : List Field :=
  [generalField c, streamsField c, jpegField c, apiField port paths]

/-- The list of endpoints in brackets is an array of strings. -/
theorem arrayText_paths (routes : List (Route H)) :
    arrayText (((routes.map Route.path).map pathElement).map Prod.fst) =
      openBracket :: (endpointList routes ++ [closeBracket]) := by
  rw [arrayText_eq, List.map_map, List.map_map]
  rfl

theorem statusText_eq (time : Int64) (routes : List (Route H)) :
    statusText time (endpointList routes) =
      objectText (statusFields time (routes.map Route.path)) := by
  unfold statusText statusFields
  simp only [objectText, membersEnd, Field.written, Field.ofString, Field.ofInt, Field.ofArray]
  rw [arrayText_paths]
  simp only [stringText, List.append_assoc, List.cons_append]
  rfl

theorem streamText_eq (fps : ℤ) (i : ℕ) (s : Stream) :
    streamText fps i s = objectText (streamFields fps i s) := by
  unfold streamText streamFields streamNumbers formatField endpointField
  simp only [List.cons_append, List.nil_append, objectText, membersEnd, Field.written,
    Field.ofString, Field.ofInt, Field.ofBool]
  simp only [stringText, List.append_assoc, List.cons_append]
  rfl

/-- The pieces for the streams with the brackets around them are an array. -/
theorem streamTexts_eq (fps : ℤ) {streams : List Stream} (h : streams ≠ []) :
    (streamTexts fps streams).flatten ++ [closeBracket] =
      (arrayText ((streamElements fps streams).map Prod.fst)).drop 1 := by
  unfold streamTexts streamElements
  rcases streams with _ | ⟨first, _ | ⟨second, others⟩⟩
  · exact absurd rfl h
  · simp [streamElement, arrayText, elementsEnd, streamText_eq]
  · simp [streamElement, arrayText, elementsEnd, streamText_eq]
    rfl

theorem configTexts_eq (c : Settings J) (port : ℤ) (routes : List (Route H))
    (hstreams : c.streams ≠ []) :
    (configTexts c port (endpointList routes)).flatten =
      objectText (configFields c port (routes.map Route.path)) := by
  have hblock : openBracket :: ((streamTexts c.sensor.fps c.streams).flatten ++ [closeBracket]) =
      arrayText ((streamElements c.sensor.fps c.streams).map Prod.fst) := by
    rw [streamTexts_eq _ hstreams]
    cases (streamElements c.sensor.fps c.streams).map Prod.fst <;> rfl
  unfold configTexts configFields generalField streamsField jpegField apiField
  simp only [objectText, membersEnd, Field.written, Field.ofObject, Field.ofArray]
  rw [← hblock]
  unfold generalText generalFields jpegText jpegNumbers pathField apiText apiFields
  simp only [membersEnd, Field.written, Field.ofString, Field.ofInt, Field.ofBool, Field.ofArray,
    List.flatten_append, List.flatten_cons, List.flatten_nil, List.cons_append, List.nil_append]
  rw [arrayText_paths]
  simp only [stringText, List.append_assoc, List.cons_append, List.nil_append]
  rfl

/-! ### Lengths -/

theorem length_printDec_le (n : ℤ) : (printDec n).length ≤ 11 := by
  refine length_printInt_le (by decide) ?_
  have hlower := (Int32.ofInt n).le_toInt
  have hupper := (Int32.ofInt n).toInt_lt
  omega

theorem length_printBool_le (b : Bool) : (printBool b).length ≤ 5 := by
  cases b <;> decide

theorem length_statusText_le (time : Int64) (endpoints : List UInt8) :
    (statusText time endpoints).length ≤ endpoints.length + 100 := by
  have htime : (printInt time.toInt).length ≤ 20 := by
    refine length_printInt_le (by decide) ?_
    have hlower := time.le_toInt
    have hupper := time.toInt_lt
    omega
  unfold statusText
  simp only [List.length_append, ascii]
  simp
  omega

theorem length_streamText_le (fps : ℤ) (i : ℕ) (s : Stream) :
    (streamText fps i s).length ≤ 227 := by
  have hformat := s.format.fits
  have hendpoint := s.rtspEndpoint.fits
  have hindex := length_printDec_le i
  have hwidth := length_printDec_le s.width
  have hheight := length_printDec_le s.height
  have hfps := length_printDec_le fps
  have hbitrate := length_printDec_le s.bitrate
  have henabled := length_printBool_le s.enabled
  unfold streamText
  simp only [List.length_append, ascii]
  simp
  omega

theorem length_streamTexts_le (fps : ℤ) (streams : List Stream) :
    (streamTexts fps streams).flatten.length ≤ 455 := by
  have hcomma : (ascii ",").length = 1 := by decide
  unfold streamTexts
  rcases streams with _ | ⟨first, _ | ⟨second, others⟩⟩
  · simp
  · have hfirst := length_streamText_le fps 0 first
    simp
    omega
  · have hfirst := length_streamText_le fps 0 first
    have hsecond := length_streamText_le fps 1 second
    simp
    omega

/-- The pieces fit into the buffer with the list that fits into its own one. -/
theorem length_configTexts_le (c : Settings J) (port : ℤ) (endpoints : List UInt8) :
    (configTexts c port endpoints).flatten.length ≤ endpoints.length + 900 := by
  have hloglevel := c.general.loglevel.fits
  have hpath := c.jpeg.jpegPath.fits
  have hstreams := length_streamTexts_le c.sensor.fps c.streams
  have henabled := length_printBool_le c.jpeg.enabled
  have hquality := length_printDec_le c.jpeg.jpegQuality
  have hchannel := length_printDec_le c.jpeg.jpegChannel
  have hport := length_printDec_le port
  unfold configTexts generalText jpegText apiText
  rw [List.flatten_append, List.flatten_append]
  generalize (streamTexts c.sensor.fps c.streams).flatten = streams at hstreams ⊢
  simp only [List.flatten_cons, List.flatten_nil, List.length_append, ascii]
  simp
  omega

/-! ### Members that are sound -/

section Sound

variable {c : Settings J} {s : Stream} {paths : List (List UInt8)}

theorem stands_paths (h : ∀ path ∈ paths, Plain path) :
    ∀ e ∈ paths.map pathElement, Stands e.1 e.2 := by
  intro e he
  obtain ⟨path, hpath, rfl⟩ := List.mem_map.mp he
  exact (closed_string (h path hpath)).stands

theorem sound_statusFields (time : Int64) (h : ∀ path ∈ paths, Plain path) :
    ∀ f ∈ statusFields time paths, f.Sound := by
  unfold statusFields
  simp only [List.forall_mem_cons]
  refine ⟨?_, ?_, ?_, ?_, List.forall_mem_nil _⟩
  · exact Field.sound_ofString (by decide) (by decide)
  · exact Field.sound_ofString (by decide) (by decide)
  · exact Field.sound_ofInt (by decide) _
  · exact Field.sound_ofArray (by decide) (stands_paths h)

theorem sound_generalField (h : Plain c.general.loglevel.bytes) : (generalField c).Sound := by
  refine Field.sound_ofObject (by decide) ?_
  unfold generalFields
  rw [List.forall_mem_singleton]
  exact Field.sound_ofString (by decide) h

theorem sound_streamNumbers (fps : ℤ) (i : ℕ) (s : Stream) :
    ∀ f ∈ streamNumbers fps i s, f.Sound := by
  have hresolution : Plain (printDec s.width ++ ascii "x" ++ printDec s.height) := by
    have hletter : Plain (ascii "x") := by decide
    intro b hb
    rcases List.mem_append.mp hb with hfront | hheight
    · exact (List.mem_append.mp hfront).elim (plain_printInt _ b) (hletter b)
    · exact plain_printInt _ b hheight
  unfold streamNumbers
  simp only [List.forall_mem_cons]
  refine ⟨?_, ?_, ?_, ?_, ?_, List.forall_mem_nil _⟩
  · exact Field.sound_ofInt (by decide) _
  · exact Field.sound_ofBool (by decide) _
  · exact Field.sound_ofString (by decide) hresolution
  · exact Field.sound_ofInt (by decide) _
  · exact Field.sound_ofInt (by decide) _

theorem sound_formatField (h : Plain s.format.bytes) : (formatField s).Sound :=
  Field.sound_ofString (by decide) h

theorem sound_endpointField (h : Plain s.rtspEndpoint.bytes) : (endpointField s).Sound :=
  Field.sound_ofString (by decide) h

theorem stands_streamElement (fps : ℤ) (i : ℕ) (hformat : Plain s.format.bytes)
    (hendpoint : Plain s.rtspEndpoint.bytes) :
    Stands (streamElement fps i s).1 (streamElement fps i s).2 := by
  refine (closed_object (List.forall_mem_append.mpr ⟨sound_streamNumbers fps i s, ?_⟩)).stands
  simp only [List.forall_mem_cons]
  exact ⟨sound_formatField hformat, sound_endpointField hendpoint, List.forall_mem_nil _⟩

theorem sound_streamsField (h : ∀ s ∈ c.streams.take 2,
    Plain s.format.bytes ∧ Plain s.rtspEndpoint.bytes) : (streamsField c).Sound := by
  refine Field.sound_ofArray (by decide) fun e he => ?_
  obtain ⟨⟨s, i⟩, hmem, rfl⟩ := List.mem_map.mp he
  obtain ⟨hformat, hendpoint⟩ := h s (List.fst_mem_of_mem_zipIdx hmem)
  exact stands_streamElement c.sensor.fps i hformat hendpoint

theorem sound_jpegNumbers (j : Jpeg) : ∀ f ∈ jpegNumbers j, f.Sound := by
  unfold jpegNumbers
  simp only [List.forall_mem_cons]
  refine ⟨?_, ?_, ?_, List.forall_mem_nil _⟩
  · exact Field.sound_ofBool (by decide) _
  · exact Field.sound_ofInt (by decide) _
  · exact Field.sound_ofInt (by decide) _

theorem sound_jpegField (h : Plain c.jpeg.jpegPath.bytes) : (jpegField c).Sound := by
  refine Field.sound_ofObject (by decide) ?_
  refine List.forall_mem_append.mpr ⟨sound_jpegNumbers c.jpeg, ?_⟩
  rw [List.forall_mem_singleton]
  exact Field.sound_ofString (by decide) h

theorem sound_apiField (port : ℤ) (h : ∀ path ∈ paths, Plain path) :
    (apiField port paths).Sound := by
  refine Field.sound_ofObject (by decide) ?_
  unfold apiFields
  simp only [List.forall_mem_cons]
  refine ⟨?_, ?_, List.forall_mem_nil _⟩
  · exact Field.sound_ofInt (by decide) _
  · exact Field.sound_ofArray (by decide) (stands_paths h)

/-- With strings that need no escapes the text stands for the members. -/
theorem text_configFields (port : ℤ) (hloglevel : Plain c.general.loglevel.bytes)
    (hstreams : ∀ s ∈ c.streams.take 2, Plain s.format.bytes ∧ Plain s.rtspEndpoint.bytes)
    (hpath : Plain c.jpeg.jpegPath.bytes) (hpaths : ∀ path ∈ paths, Plain path) :
    Json.Text (objectText (configFields c port paths))
      (.object ((configFields c port paths).map Field.member)) := by
  refine (closed_object ?_).text
  unfold configFields
  simp only [List.forall_mem_cons]
  exact ⟨sound_generalField hloglevel, sound_streamsField hstreams, sound_jpegField hpath,
    sound_apiField port hpaths, List.forall_mem_nil _⟩

end Sound

/-! ### What is sent -/

section Sent

variable {st : JsonSources J H} {c : Settings J} {n : ℕ} {returned : ℤ}

theorem printed_eq {size : ℕ} {texts : List (List UInt8)} (h : texts.flatten.length < size) :
    printed size texts = some texts.flatten := by
  rw [printed, printAll_eq h]
  rfl

/-- The paths of the first routes. -/
def JsonSources.paths (st : JsonSources J H) (n : ℕ) : List (List UInt8) :=
  (st.routes.take n).map Route.path

theorem plain_paths (h : ∀ route ∈ st.routes, Plain route.path) (n : ℕ) :
    ∀ path ∈ st.paths n, Plain path := by
  intro path hpath
  obtain ⟨route, hroute, rfl⟩ := List.mem_map.mp hpath
  exact h route (List.mem_of_mem_take hroute)

/-- With the list of some routes the state is sent whole. -/
theorem handleJsonRequest_status (hlist : httpRouterGenerateEndpointList st.routes [] 512 =
      some (endpointList (st.routes.take n), returned))
    (hfits : (endpointList (st.routes.take n)).length < 512) :
    handleJsonRequest st (ascii "status") =
      some (objectText (statusFields st.time (st.paths n))) := by
  have hlength := length_statusText_le st.time (endpointList (st.routes.take n))
  have hroom : [statusText st.time (endpointList (st.routes.take n))].flatten.length <
      jsonBufferSize := by
    rw [List.flatten_singleton, jsonBufferSize]
    omega
  rw [handleJsonRequest, if_pos rfl, hlist, Option.bind_some, printed_eq hroom,
    List.flatten_singleton, statusText_eq]
  rfl

/-- With the list of some routes the configuration is sent whole. -/
theorem handleJsonRequest_config (hconfig : st.gConfig = some c) (hstreams : c.streams ≠ [])
    (hlist : httpRouterGenerateEndpointList st.routes [] 1024 =
      some (endpointList (st.routes.take n), returned))
    (hfits : (endpointList (st.routes.take n)).length < 1024) :
    handleJsonRequest st (ascii "config") =
      some (objectText (configFields c st.port (st.paths n))) := by
  have hlength := length_configTexts_le c st.port (endpointList (st.routes.take n))
  have hroom : (configTexts c st.port (endpointList (st.routes.take n))).flatten.length <
      jsonBufferSize := by
    rw [jsonBufferSize]
    omega
  rw [handleJsonRequest, if_neg (by decide), if_pos rfl, hconfig]
  dsimp only
  rw [if_neg hstreams, hlist, Option.bind_some, printed_eq hroom, configTexts_eq _ _ _ hstreams]
  rfl

/-- The state is sent if the list of endpoints fits. -/
theorem EndpointsFit.sendsStatus (hpaths : ∀ route ∈ st.routes, Plain route.path)
    (h : EndpointsFit st.routes [] 512) : SendsStatus st := by
  obtain ⟨n, hlist, hfits⟩ := h.lists (by decide)
  refine ⟨⟨n, hlist, hfits⟩, fun list hsome => ?_, ?_⟩
  · obtain rfl := Option.some.inj (hlist.symm.trans hsome)
    have hlength := length_statusText_le st.time (endpointList (st.routes.take n))
    rw [printsWhole_iff, List.flatten_singleton, jsonBufferSize]
    dsimp only
    omega
  · have htext := (closed_object (sound_statusFields st.time (plain_paths hpaths n))).text
    exact ⟨_, _, handleJsonRequest_status hlist hfits, htext⟩

theorem getElem?_streamElements (fps : ℤ) {streams : List Stream} {i : ℕ} {s : Stream}
    (hi : i < 2) (h : streams[i]? = some s) :
    (streamElements fps streams)[i]? = some (streamElement fps i s) := by
  unfold streamElements
  rw [List.getElem?_map, List.getElem?_zipIdx, List.getElem?_take_of_lt hi, h]
  simp

/-- The strings of a stream that is listed. -/
theorem named_stream (fps : ℤ) (i : ℕ) (s : Stream) :
    Value.named (ascii "format") (streamElement fps i s).2 = [.string s.format.bytes] ∧
      Value.named (ascii "rtsp_endpoint") (streamElement fps i s).2 =
        [.string s.rtspEndpoint.bytes] := by
  constructor
  · rfl
  · rfl

/-- The streams at an index. -/
theorem indexed_configFields (port : ℤ) (paths : List (List UInt8)) (i : ℕ) :
    (Value.named (ascii "streams") (.object ((configFields c port paths).map Field.member))).flatMap
      (Value.indexed i) = ((streamElements c.sensor.fps c.streams)[i]?.map Prod.snd).toList := by
  have hnamed : Value.named (ascii "streams")
      (.object ((configFields c port paths).map Field.member)) =
        [.array ((streamElements c.sensor.fps c.streams).map Prod.snd)] := rfl
  rw [hnamed, List.flatMap_singleton, Value.indexed, List.getElem?_map]

/-- The strings that are written are read back. -/
theorem readsBack_configFields (port : ℤ) (paths : List (List UInt8))
    (hlength : c.streams.length ≤ 2) :
    ReadsBack c (.object ((configFields c port paths).map Field.member)) := by
  have hindexed (i : ℕ) (s : Stream) (h : c.streams[i]? = some s) :
      (Value.named (ascii "streams")
        (.object ((configFields c port paths).map Field.member))).flatMap (Value.indexed i) =
        [(streamElement c.sensor.fps i s).2] := by
    have hi : i < c.streams.length := (List.getElem?_eq_some_iff.mp h).1
    rw [indexed_configFields, getElem?_streamElements _ (by omega) h]
    rfl
  refine ⟨rfl, fun i s h => ?_, fun i s h => ?_, rfl⟩
  · rw [hindexed i s h, List.flatMap_singleton]
    exact (named_stream c.sensor.fps i s).1
  · rw [hindexed i s h, List.flatMap_singleton]
    exact (named_stream c.sensor.fps i s).2

/-- The configuration is sent if the list of endpoints fits and no string needs an escape. -/
theorem EndpointsFit.sendsConfig (hconfig : st.gConfig = some c) (hstreams : c.streams ≠ [])
    (hpaths : ∀ route ∈ st.routes, Plain route.path) (h : EndpointsFit st.routes [] 1024)
    (hplain : NeedsNoEscape c) : SendsConfig st c := by
  obtain ⟨n, hlist, hfits⟩ := h.lists (by decide)
  refine ⟨⟨n, hlist, hfits⟩, fun list hsome => ?_, ?_⟩
  · obtain rfl := Option.some.inj (hlist.symm.trans hsome)
    have hlength := length_configTexts_le c st.port (endpointList (st.routes.take n))
    rw [printsWhole_iff, jsonBufferSize]
    dsimp only
    omega
  · have hlisted : ∀ s ∈ c.streams.take 2,
        Plain s.format.bytes ∧ Plain s.rtspEndpoint.bytes := by
      intro s hs
      have hmem := List.mem_of_mem_take hs
      exact ⟨hplain.format s hmem, hplain.rtspEndpoint s hmem⟩
    exact ⟨_, _, handleJsonRequest_config hconfig hstreams hlist hfits,
      text_configFields st.port hplain.loglevel hlisted hplain.jpegPath (plain_paths hpaths n),
      readsBack_configFields st.port (st.paths n) hplain.streams⟩

end Sent

/-! ### Strings that are read back -/

section Read

variable {c : Settings J} {port : ℤ} {paths : List (List UInt8)} {v w : Value}
  {text rest m more : List UInt8} {others : List Value}

theorem keys_streamNumbers (fps : ℤ) (i : ℕ) (s : Stream) :
    (streamNumbers fps i s).map Field.key = [ascii "id", ascii "enabled", ascii "resolution",
      ascii "fps", ascii "bitrate_kbps"] := rfl

/-- The strings of a stream need no escapes if they are read back. -/
theorem plain_of_stream {fps : ℤ} {i : ℕ} {s : Stream} (hm : Plain m)
    (h : Reads .value ((streamElement fps i s).1 ++ (m ++ quote :: more)) w rest)
    (hformat : (w :: others).flatMap (Value.named (ascii "format")) = [.string s.format.bytes])
    (hendpoint : (w :: others).flatMap (Value.named (ascii "rtsp_endpoint")) =
      [.string s.rtspEndpoint.bytes]) :
    Plain s.format.bytes ∧ Plain s.rtspEndpoint.bytes := by
  have hplain : Plain s.format.bytes := by
    have hobject : Reads .value (objectText (streamNumbers fps i s ++
        Field.ofString (ascii "format") s.format.bytes :: [endpointField s]) ++
          (m ++ quote :: more)) w rest := h
    refine hobject.plain_of_named (m := [comma]) (sound_streamNumbers fps i s) (by decide) ?_ rfl
      (by decide) (by decide) hformat
    rw [keys_streamNumbers]
    decide
  refine ⟨hplain, ?_⟩
  have hknown : ∀ f ∈ streamNumbers fps i s ++ [formatField s], f.Sound := by
    refine List.forall_mem_append.mpr ⟨sound_streamNumbers fps i s, ?_⟩
    rw [List.forall_mem_singleton]
    exact sound_formatField hplain
  have hobject : Reads .value (objectText ((streamNumbers fps i s ++ [formatField s]) ++
      Field.ofString (ascii "rtsp_endpoint") s.rtspEndpoint.bytes :: []) ++
        (m ++ quote :: more)) w rest := h
  refine hobject.plain_of_named (m := closeBrace :: m) hknown (by decide) ?_ rfl
    (plain_cons.mpr ⟨by decide, hm⟩) (List.cons_ne_nil _ _) hendpoint
  have hkeys : [formatField s].map Field.key = [ascii "format"] := rfl
  rw [List.map_append, keys_streamNumbers, hkeys]
  decide

/-- So do those of all streams that are listed. -/
theorem plain_of_streams {fps : ℤ} {streams : List Stream}
    (h : Reads .value (arrayText ((streamElements fps streams).map Prod.fst) ++
      comma :: quote :: more) v rest)
    (hformat : ∀ i s, streams[i]? = some s → ((v :: others).flatMap (Value.indexed i)).flatMap
      (Value.named (ascii "format")) = [.string s.format.bytes])
    (hendpoint : ∀ i s, streams[i]? = some s → ((v :: others).flatMap (Value.indexed i)).flatMap
      (Value.named (ascii "rtsp_endpoint")) = [.string s.rtspEndpoint.bytes]) :
    ∀ s ∈ streams.take 2, Plain s.format.bytes ∧ Plain s.rtspEndpoint.bytes := by
  have hstream {known tail : List (List UInt8)} {ws : List Value} {s : Stream}
      {m more' : List UInt8} (hknown : List.Forall₂ Stands known ws)
      (hs : streams[known.length]? = some s) (hm : Plain m)
      (htext : elementsEnd tail ++ comma :: quote :: more = m ++ quote :: more')
      (harray : Reads .value (arrayText (known ++ (streamElement fps known.length s).1 :: tail) ++
        comma :: quote :: more) v rest) :
      Plain s.format.bytes ∧ Plain s.rtspEndpoint.bytes := by
    obtain ⟨w, behind, hw, hread⟩ := harray.indexed_of_array hknown ⟨_, rfl⟩
    have hindexed : (v :: others).flatMap (Value.indexed known.length) =
        w :: others.flatMap (Value.indexed known.length) := by
      rw [List.flatMap_cons, hw]
      rfl
    have hformat' := hformat _ s hs
    have hendpoint' := hendpoint _ s hs
    rw [hindexed] at hformat' hendpoint'
    rw [htext] at hread
    exact plain_of_stream hm hread hformat' hendpoint'
  rcases streams with _ | ⟨first, _ | ⟨second, tail⟩⟩
  · exact List.forall_mem_nil _
  · refine List.forall_mem_cons.mpr ⟨?_, List.forall_mem_nil _⟩
    exact hstream (m := [closeBracket, comma]) .nil rfl (by decide) rfl h
  · have hplain : Plain first.format.bytes ∧ Plain first.rtspEndpoint.bytes :=
      hstream (m := [comma, openBrace]) .nil rfl (by decide) rfl h
    have hknown := stands_streamElement fps 0 hplain.1 hplain.2
    refine List.forall_mem_cons.mpr ⟨hplain, List.forall_mem_cons.mpr ⟨?_, List.forall_mem_nil _⟩⟩
    exact hstream (m := [closeBracket, comma]) (.cons hknown .nil) rfl (by decide) rfl h

/-! The sections of the configuration, one after the other. -/

theorem plain_loglevel
    (h : Reads .value (objectText (configFields c port paths) ++ []) v rest)
    (hback : ReadsBack c v) : Plain c.general.loglevel.bytes := by
  have hobject : Reads .value (objectText ([] ++ generalField c ::
    [streamsField c, jpegField c, apiField port paths]) ++ []) v rest := h
  have hkey : Plain (generalField c).key := show Plain (ascii "general") by decide
  obtain ⟨first, others, behind, hnamed, hread⟩ :=
    hobject.named_of_object (List.forall_mem_nil _) hkey List.not_mem_nil
  have hloglevel := hback.loglevel
  rw [show Value.named (ascii "general") v = first :: others from hnamed] at hloglevel
  have hgeneral : Reads .value (objectText ([] ++
    Field.ofString (ascii "log_level") c.general.loglevel.bytes :: []) ++
      (membersEnd [streamsField c, jpegField c, apiField port paths] ++ [])) first behind := hread
  exact hgeneral.plain_of_named (m := [closeBrace, comma]) (List.forall_mem_nil _) (by decide)
    List.not_mem_nil rfl (by decide) (by decide) hloglevel

theorem plain_listed (hgeneral : (generalField c).Sound)
    (h : Reads .value (objectText (configFields c port paths) ++ []) v rest)
    (hback : ReadsBack c v) :
    ∀ s ∈ c.streams.take 2, Plain s.format.bytes ∧ Plain s.rtspEndpoint.bytes := by
  have hobject : Reads .value (objectText ([generalField c] ++ streamsField c ::
    [jpegField c, apiField port paths]) ++ []) v rest := h
  have hkey : Plain (streamsField c).key := show Plain (ascii "streams") by decide
  have hfirst : (streamsField c).key ∉ [generalField c].map Field.key :=
    show ascii "streams" ∉ [ascii "general"] by decide
  have hknown : ∀ f ∈ [generalField c], f.Sound := List.forall_mem_singleton.mpr hgeneral
  obtain ⟨first, others, behind, hnamed, hread⟩ := hobject.named_of_object hknown hkey hfirst
  have hformat := hback.format
  have hendpoint := hback.rtspEndpoint
  rw [show Value.named (ascii "streams") v = first :: others from hnamed] at hformat hendpoint
  exact plain_of_streams hread hformat hendpoint

theorem plain_jpegPath (hgeneral : (generalField c).Sound) (hstreams : (streamsField c).Sound)
    (h : Reads .value (objectText (configFields c port paths) ++ []) v rest)
    (hback : ReadsBack c v) : Plain c.jpeg.jpegPath.bytes := by
  have hobject : Reads .value (objectText ([generalField c, streamsField c] ++ jpegField c ::
    [apiField port paths]) ++ []) v rest := h
  have hkey : Plain (jpegField c).key := show Plain (ascii "jpeg") by decide
  have hfirst : (jpegField c).key ∉ [generalField c, streamsField c].map Field.key :=
    show ascii "jpeg" ∉ [ascii "general", ascii "streams"] by decide
  have hknown : ∀ f ∈ [generalField c, streamsField c], f.Sound :=
    List.forall_mem_cons.mpr ⟨hgeneral, List.forall_mem_singleton.mpr hstreams⟩
  obtain ⟨first, others, behind, hnamed, hread⟩ := hobject.named_of_object hknown hkey hfirst
  have hpath := hback.jpegPath
  rw [show Value.named (ascii "jpeg") v = first :: others from hnamed] at hpath
  have hjpeg : Reads .value (objectText (jpegNumbers c.jpeg ++
    Field.ofString (ascii "path") c.jpeg.jpegPath.bytes :: []) ++
      (membersEnd [apiField port paths] ++ [])) first behind := hread
  have hkeys : ascii "path" ∉ (jpegNumbers c.jpeg).map Field.key :=
    show ascii "path" ∉ [ascii "enabled", ascii "quality", ascii "channel"] by decide
  exact hjpeg.plain_of_named (m := [closeBrace, comma]) (sound_jpegNumbers c.jpeg) (by decide)
    hkeys rfl (by decide) (by decide) hpath

/-- The configuration that is read back needs no escapes, and its streams are all listed. -/
theorem needsNoEscape_of_text (h : Json.Text (objectText (configFields c port paths)) v)
    (hpaths : ∀ path ∈ paths, Plain path) (hback : ReadsBack c v) : NeedsNoEscape c := by
  obtain ⟨rest, hreads, -⟩ := id h
  rw [← List.append_nil (objectText _)] at hreads
  have hloglevel := plain_loglevel hreads hback
  have hgeneral := sound_generalField hloglevel
  have hlisted := plain_listed hgeneral hreads hback
  have hpath := plain_jpegPath hgeneral (sound_streamsField hlisted) hreads hback
  have hlength : c.streams.length ≤ 2 := by
    by_contra hmore
    obtain rfl := h.unique (text_configFields port hloglevel hlisted hpath hpaths)
    have hthird := hback.format 2 c.streams[2] (List.getElem?_eq_getElem (by omega))
    have hnone : (streamElements c.sensor.fps c.streams)[2]? = none := by
      refine List.getElem?_eq_none ?_
      rw [streamElements, List.length_map, List.length_zipIdx, List.length_take]
      omega
    rw [indexed_configFields, hnone] at hthird
    cases hthird
  rw [List.take_of_length_le hlength] at hlisted
  exact ⟨hloglevel, hlength, fun s hs => (hlisted s hs).1, fun s hs => (hlisted s hs).2, hpath⟩

end Read

/-- The configuration is only sent with its strings if they need no escapes. -/
theorem SendsConfig.needsNoEscape {st : JsonSources J H} {c : Settings J}
    (hconfig : st.gConfig = some c) (hstreams : c.streams ≠ [])
    (hpaths : ∀ route ∈ st.routes, Plain route.path) (h : SendsConfig st c) :
    NeedsNoEscape c := by
  obtain ⟨n, hlist, hfits⟩ := h.lists
  obtain ⟨body, v, hbody, htext, hback⟩ := h.json
  rw [handleJsonRequest_config hconfig hstreams hlist hfits] at hbody
  obtain rfl := Option.some.inj hbody
  exact needsNoEscape_of_text htext (plain_paths hpaths n) hback

/-- The state and the configuration are sent as JSON, with the strings of the configuration and
nothing cut, if and only if the paths fit into the lists of endpoints wherever their loop goes on,
all streams are listed, and no string needs an escape. -/
theorem sends_iff (st : JsonSources J H) (c : Settings J) (hconfig : st.gConfig = some c)
    (hstreams : c.streams ≠ []) (hpaths : ∀ route ∈ st.routes, Plain route.path) :
    SendsStatus st ∧ SendsConfig st c ↔
      EndpointsFit st.routes [] 512 ∧ EndpointsFit st.routes [] 1024 ∧ NeedsNoEscape c := by
  constructor
  · rintro ⟨hstatus, hsent⟩
    exact ⟨hstatus.lists.fit (by decide), hsent.lists.fit (by decide),
      hsent.needsNoEscape hconfig hstreams hpaths⟩
  · rintro ⟨hshort, hlong, hplain⟩
    exact ⟨hshort.sendsStatus hpaths, hlong.sendsConfig hconfig hstreams hpaths hplain⟩

/-- A library that reads no files. -/
def noJson : JsonC := .ofLeaves fun _ => none

/-- A configuration with one stream. -/
def oneStream (loglevel : String) : Settings noJson :=
  { Settings.createNew with
    general := { (Settings.createNew (J := noJson)).general with
      loglevel := .copy 16 size16_pos (ascii loglevel) }
    streams := [{ Stream.zeroed with
      format := .copy 16 size16_pos (ascii "H264")
      rtspEndpoint := .copy 64 size64_pos (ascii "ch0") }] }

theorem oneStream_streams (loglevel : String) : (oneStream loglevel).streams ≠ [] :=
  List.cons_ne_nil _ _

/-- The configuration, two routes, and the port of the module. -/
def oneStreamSources (loglevel : String) : JsonSources noJson Handler where
  gConfig := some (oneStream loglevel)
  routes := [getRoute "/status.json" .statusJson, getRoute "/config.json" .configJson]
  port := 8080
  time := 0
  uptime := 0

theorem plain_oneStreamSources (loglevel : String) :
    ∀ route ∈ (oneStreamSources loglevel).routes, Plain route.path := by
  refine List.forall_mem_cons.mpr ⟨?_, List.forall_mem_singleton.mpr ?_⟩
  · exact show Plain (ascii "/status.json") by decide
  · exact show Plain (ascii "/config.json") by decide

/-- Without characters that need an escape both are sent. -/
theorem sends_oneStream :
    SendsStatus (oneStreamSources "INFO") ∧
      SendsConfig (oneStreamSources "INFO") (oneStream "INFO") := by
  have hlength : (endpointList (oneStreamSources "INFO").routes).length = 29 := by
    decide +kernel
  refine (sends_iff _ _ rfl (oneStream_streams "INFO") (plain_oneStreamSources "INFO")).mpr
    ⟨.of_all (by omega), .of_all (by omega), ?_⟩
  refine ⟨by decide, Nat.le_succ 1, ?_, ?_, plain_nil⟩
  · exact List.forall_mem_singleton.mpr (show Plain (ascii "H264") by decide)
  · exact List.forall_mem_singleton.mpr (show Plain (ascii "ch0") by decide)

/-- A log level with a quote ends its string. -/
theorem not_sends_quote :
    ¬∀ (st : JsonSources noJson Handler) (c : Settings noJson), st.gConfig = some c →
      c.streams ≠ [] → (∀ route ∈ st.routes, Plain route.path) →
        SendsStatus st ∧ SendsConfig st c := by
  intro h
  have hstreams := oneStream_streams "\""
  have hpaths := plain_oneStreamSources "\""
  have hsent := (h (oneStreamSources "\"") (oneStream "\"") rfl hstreams hpaths).2
  have hplain := (hsent.needsNoEscape rfl hstreams hpaths).loglevel
  exact absurd hplain (by decide)

end Http
