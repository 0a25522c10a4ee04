import ServiceTunnel.Proofs.Site
import ServiceTunnel.Proofs.Toml

/-!
# ServiceTunnel.Proofs.Rendered

**What the text of a configuration says.** The text of the client's configuration is a list of
lines, each ended by a break (`ClientConfig.toList_render`). As long as its values are plain, the
text is read back as TOML to the very document that was meant (`ClientConfig.read?_render`).
So the two ends of a tunnel agree: what the client asks of the server is what the machine listens
on (`ends_agree`).
-/

namespace ServiceTunnel.Frp

open Toml

/-! ### The lines of a text -/

/-- The line that gives a value to a key. -/
def assignment (key : String) (value : List Char) : List Char :=
  key.toList ++ " = ".toList ++ value

/-- A text as a value. -/
def quoted (text : String) : List Char := '"' :: text.toList ++ ['"']

/-- The lines of a proxy. -/
def Proxy.lines (p : Proxy) : List (List Char) :=
  [[], "[[proxies]]".toList,
    assignment "name" (quoted p.name),
    assignment "type" (quoted p.transport.word),
    assignment "localIP" (quoted p.localIp),
    assignment "localPort" (portText p.localPort).toList,
    assignment "remotePort" (portText p.remotePort).toList]

/-- The lines of a client's configuration. -/
def ClientConfig.lines (c : ClientConfig) : List (List Char) :=
  assignment "serverAddr" (quoted c.serverAddr) ::
    assignment "serverPort" (portText c.serverPort).toList ::
      c.proxies.flatMap (·.lines)

theorem Proxy.toList_render (p : Proxy) :
    p.render.toList = p.lines.flatMap (· ++ ['\n']) := by
  unfold render lines assignment quoted
  simp only [toString, String.toList_append, List.flatMap_cons, List.flatMap_nil,
    List.append_assoc, List.cons_append, List.nil_append]
  rfl

theorem ClientConfig.toList_render (c : ClientConfig) :
    c.render.toList = c.lines.flatMap (· ++ ['\n']) := by
  have hproxies : (String.join (c.proxies.map (·.render))).toList =
      (c.proxies.flatMap (·.lines)).flatMap (· ++ ['\n']) := by
    rw [String.toList_join, List.flatMap_map, List.flatMap_assoc]
    exact List.flatMap_congr fun p _ => p.toList_render
  unfold render lines assignment quoted
  rw [String.toList_append, hproxies]
  simp only [toString, String.toList_append, List.flatMap_cons, List.append_assoc,
    List.cons_append, List.nil_append]
  rfl

theorem newline_not_mem_assignment {key : String} {value : List Char} (hkey : OneLine key)
    (hvalue : '\n' ∉ value) : '\n' ∉ assignment key value := by
  unfold assignment
  rw [List.mem_append, List.mem_append]
  exact not_or.mpr ⟨not_or.mpr ⟨hkey, by decide⟩, hvalue⟩

theorem newline_not_mem_quoted {text : String} (h : OneLine text) : '\n' ∉ quoted text := by
  unfold quoted
  rw [List.mem_append, List.mem_cons]
  exact not_or.mpr ⟨not_or.mpr ⟨by decide, h⟩, by decide⟩

theorem Transport.plain_word (t : Transport) : Plain t.word := by
  cases t with
  | tcp => decide
  | udp => decide

theorem oneLine_portText (port : Int32) : OneLine (portText port) := (plain_toString _).oneLine

/-- A proxy whose name and address are in one line each is written in seven lines. -/
theorem Proxy.newline_not_mem_lines {p : Proxy} (hname : OneLine p.name) (hip : OneLine p.localIp) :
    ∀ l ∈ p.lines, '\n' ∉ l := by
  unfold lines
  simp only [List.forall_mem_cons]
  exact ⟨List.not_mem_nil, by decide,
    newline_not_mem_assignment (by decide) (newline_not_mem_quoted hname),
    newline_not_mem_assignment (by decide) (newline_not_mem_quoted p.transport.plain_word.oneLine),
    newline_not_mem_assignment (by decide) (newline_not_mem_quoted hip),
    newline_not_mem_assignment (by decide) (oneLine_portText _),
    newline_not_mem_assignment (by decide) (oneLine_portText _),
    fun _ h => absurd h List.not_mem_nil⟩

/-- A configuration whose texts are in one line each has its lines as they are meant. -/
theorem ClientConfig.newline_not_mem_lines {c : ClientConfig} (haddr : OneLine c.serverAddr)
    (hproxies : ∀ p ∈ c.proxies, OneLine p.name ∧ OneLine p.localIp) :
    ∀ l ∈ c.lines, '\n' ∉ l := by
  unfold lines
  have hfirst := newline_not_mem_assignment (by decide : OneLine "serverAddr")
    (newline_not_mem_quoted haddr)
  have hsecond := newline_not_mem_assignment (by decide : OneLine "serverPort")
    (oneLine_portText c.serverPort)
  refine List.forall_mem_cons.mpr ⟨hfirst, List.forall_mem_cons.mpr ⟨hsecond, fun l hl => ?_⟩⟩
  obtain ⟨p, hp, hlp⟩ := List.mem_flatMap.mp hl
  exact p.newline_not_mem_lines (hproxies p hp).1 (hproxies p hp).2 l hlp

/-! ### What the lines say -/

/-- The texts of a proxy are plain. -/
def Proxy.Plain (p : Proxy) : Prop := Toml.Plain p.name ∧ Toml.Plain p.localIp

/-- The texts of a client's configuration are plain. -/
def ClientConfig.Plain (c : ClientConfig) : Prop :=
  Toml.Plain c.serverAddr ∧ ∀ p ∈ c.proxies, p.Plain

/-- What the text says of a proxy. -/
def Proxy.entries (p : Proxy) : List (String × Scalar) :=
  [("name", .string p.name),
    ("type", .string p.transport.word),
    ("localIP", .string p.localIp),
    ("localPort", .integer p.localPort.toInt),
    ("remotePort", .integer p.remotePort.toInt)]

/-- What the text says before the proxies. -/
def ClientConfig.entries (c : ClientConfig) : List (String × Scalar) :=
  [("serverAddr", .string c.serverAddr), ("serverPort", .integer c.serverPort.toInt)]

/-- What the text says. -/
def ClientConfig.document (c : ClientConfig) : Document where
  top := .ofList c.entries
  sections := c.proxies.map fun p => ("proxies", .ofList p.entries)

theorem Proxy.nodup_entries (p : Proxy) : (p.entries.map (·.1)).Nodup :=
  (by decide : ["name", "type", "localIP", "localPort", "remotePort"].Nodup)

theorem ClientConfig.nodup_entries (c : ClientConfig) : (c.entries.map (·.1)).Nodup :=
  (by decide : ["serverAddr", "serverPort"].Nodup)

theorem Proxy.get?_type (p : Proxy) :
    (Dict.ofList p.entries).get? "type" = some (.string p.transport.word) :=
  Dict.get?_ofList_of_mem p.nodup_entries (by simp [entries])

theorem Proxy.get?_remotePort (p : Proxy) :
    (Dict.ofList p.entries).get? "remotePort" = some (.integer p.remotePort.toInt) :=
  Dict.get?_ofList_of_mem p.nodup_entries (by simp [entries])

theorem ClientConfig.get?_serverPort (c : ClientConfig) :
    c.document.top.get? "serverPort" = some (.integer c.serverPort.toInt) :=
  Dict.get?_ofList_of_mem c.nodup_entries (by simp [entries])

/-- No entry has the name of the array. -/
theorem ClientConfig.get?_proxies (c : ClientConfig) : c.document.top.get? "proxies" = none :=
  Dict.get?_ofList_of_not_mem c.nodup_entries
    (by decide : "proxies" ∉ ["serverAddr", "serverPort"])

/-- The tables of the array are those of the proxies. -/
theorem ClientConfig.array_proxies (c : ClientConfig) :
    c.document.array "proxies" = c.proxies.map fun p => .ofList p.entries := by
  have hall : c.document.sections.filter (·.1 == "proxies") = c.document.sections := by
    refine List.filter_eq_self.mpr fun s hs => ?_
    obtain ⟨p, -, rfl⟩ := List.mem_map.mp hs
    rfl
  rw [Document.array, hall, document, List.map_map]
  rfl

theorem gives_text (key : String) (hkey : key.toList ≠ [] ∧ key.toList.all isBare) {text : String}
    (h : Toml.Plain text) : Line.Gives (assignment key (quoted text)) (key, .string text) :=
  Line.read?_entry hkey (Scalar.read?_string h)

theorem gives_port (key : String) (hkey : key.toList ≠ [] ∧ key.toList.all isBare)
    (port : Int32) :
    Line.Gives (assignment key (portText port).toList) (key, .integer port.toInt) := by
  have hlow := port.le_toInt
  have hhigh := port.toInt_lt
  have hfits : fits port.toInt = true := by
    rw [fits, Bool.and_eq_true, decide_eq_true_eq, decide_eq_true_eq]
    omega
  exact Line.read?_entry hkey (Scalar.read?_integer hfits)

/-- The lines of a proxy say what is meant, before lines that begin with the next header. -/
theorem Proxy.ofLines?_lines {p : Proxy} (hplain : p.Plain) {rest : List (List Char)}
    {sections : List (String × Table)} (hrest : Document.ofLines? rest = some ⟨∅, sections⟩) :
    Document.ofLines? (p.lines ++ rest) = some ⟨∅, ("proxies", .ofList p.entries) :: sections⟩ := by
  obtain ⟨hname, hip⟩ := hplain
  have hheader : Line.read? "[[proxies]]".toList = some (.header "proxies") := by decide
  have hentries := Document.ofLines?_entries p.entries
    (.cons (gives_text "name" (by decide) hname)
      (.cons (gives_text "type" (by decide) p.transport.plain_word)
        (.cons (gives_text "localIP" (by decide) hip)
          (.cons (gives_port "localPort" (by decide) p.localPort)
            (.cons (gives_port "remotePort" (by decide) p.remotePort) .nil)))))
    p.nodup_entries hrest
  unfold lines
  rw [List.cons_append, List.cons_append, Document.ofLines?, Document.ofLines?, hheader, hentries]
  rfl

theorem ofLines?_proxies {ps : List Proxy} (h : ∀ p ∈ ps, p.Plain) :
    Document.ofLines? (ps.flatMap (·.lines) ++ [[]]) =
      some ⟨∅, ps.map fun p => ("proxies", .ofList p.entries)⟩ := by
  induction ps with
  | nil => rfl
  | cons p ps ih =>
      obtain ⟨hp, hps⟩ := List.forall_mem_cons.mp h
      rw [List.flatMap_cons, List.append_assoc]
      exact p.ofLines?_lines hp (ih hps)

/-- A configuration whose texts are plain is read back from its text. -/
theorem ClientConfig.read?_render {c : ClientConfig} (h : c.Plain) :
    Document.read? c.render = some c.document := by
  obtain ⟨haddr, hproxies⟩ := h
  have hentries := Document.ofLines?_entries c.entries
    (.cons (gives_text "serverAddr" (by decide) haddr)
      (.cons (gives_port "serverPort" (by decide) c.serverPort) .nil))
    c.nodup_entries (ofLines?_proxies hproxies)
  have hlines : Toml.lines c.render.toList = c.lines ++ [[]] := by
    rw [c.toList_render]
    refine lines_flatMap_of_not_mem ?_
    exact c.newline_not_mem_lines haddr.oneLine fun p hp =>
      ⟨(hproxies p hp).1.oneLine, (hproxies p hp).2.oneLine⟩
  have hread : Document.ofLines? (c.lines ++ [[]]) = some c.document := hentries
  have hfree : (c.document.sections.any fun s => c.document.top.contains s.1) = false := by
    refine List.any_eq_false.mpr fun s hs => ?_
    obtain ⟨p, -, rfl⟩ := List.mem_map.mp hs
    rw [Dict.contains, c.get?_proxies]
    exact Bool.false_ne_true
  rw [Document.read?, hlines, hread, Option.filter_some, hfree]
  rfl

/-- The configuration of the server is read back from its text. -/
theorem read?_serverConfig (port : Int32) :
    Document.read? (serverConfig port) =
      some ⟨.ofList [("bindPort", .integer port.toInt)], []⟩ := by
  have hline := gives_port "bindPort" (by decide) port
  have htext : (serverConfig port).toList =
      [assignment "bindPort" (portText port).toList].flatMap (· ++ ['\n']) := by
    unfold serverConfig assignment
    simp only [toString, String.toList_append, List.flatMap_cons, List.flatMap_nil,
      List.append_assoc, List.append_nil]
    rfl
  have hbreak : ∀ l ∈ [assignment "bindPort" (portText port).toList], '\n' ∉ l :=
    List.forall_mem_singleton.mpr (newline_not_mem_assignment (by decide) (oneLine_portText port))
  have hentries := Document.ofLines?_entries [_] (.cons hline .nil) (List.pairwise_singleton _ _)
    (rfl : Document.ofLines? [[]] = some ⟨∅, []⟩)
  rw [Document.read?, htext, lines_flatMap_of_not_mem hbreak, hentries]
  rfl

/-! ### The two ends -/

section Texts

variable {P : String → Prop} (happend : ∀ {a b}, P a → P b → P (a ++ b))
  (hplain : ∀ {a}, Toml.Plain a → P a)

include happend hplain

theorem Proxy.text_suffix {p : Kube.ServicePort} (hport : ∀ n, p.name = some n → P n) :
    P (suffix p) := by
  have hnumber : P (suffix.ofNumber p) :=
    happend (happend (hplain (Transport.ofPort p).plain_word) (hplain (by decide)))
      (hplain (plain_toString p.port.toInt))
  unfold suffix
  split
  · split
    · exact hnumber
    · exact hport _ ‹_›
  · exact hnumber

/-- What holds of the texts of a Service, of all that is plain, and of texts that are joined, holds
of the texts of its proxies. -/
theorem Proxy.texts_ofPort {service : Kube.Service} (hns : P service.ns)
    (hname : P service.name) {p : Kube.ServicePort} (hport : ∀ n, p.name = some n → P n) :
    P (ofPort service p).name ∧ P (ofPort service p).localIp := by
  have hdash : P "-" := hplain (by decide)
  have hdot : P "." := hplain (by decide)
  have hcluster : P ".svc.cluster.local" := hplain (by decide)
  have hsuffix := text_suffix happend hplain hport
  exact ⟨happend (happend (happend (happend hns hdash) hname) hdash) hsuffix,
    happend (happend (happend hname hdot) hns) hcluster⟩

end Texts

/-- The texts of a client's configuration are plain if those of the Service and the address are. -/
theorem ClientConfig.plain_ofService {service : Kube.Service} {addr : String}
    (hns : Toml.Plain service.ns) (hname : Toml.Plain service.name)
    (hports : ∀ p ∈ service.ports, ∀ n, p.name = some n → Toml.Plain n) (haddr : Toml.Plain addr)
    (port : Int32) : (ofService service addr port).Plain := by
  refine ⟨haddr, fun proxy hproxy => ?_⟩
  obtain ⟨p, hp, rfl⟩ := List.mem_map.mp hproxy
  exact Proxy.texts_ofPort Toml.Plain.append id hns hname (hports p hp)

end ServiceTunnel.Frp

namespace ServiceTunnel

open Frp Toml Simulation

/-- **The two ends of a tunnel agree.** Let the texts of a Service and the address of the server be
without quotes, backslashes and control characters. Then the text of the client's configuration is
read back as TOML: it names the server's address and control port, and has one proxy for each port
of the Service, in order, that leads from the port to the same port of the Service. The machine has
a listener for the control port and then one for each of these proxies, of the same transport and
port, each open under the same number outside. And the server is told the same control port. -/
theorem ends_agree {service : Kube.Service} {addr : String} (config : TunnelConfig)
    (hns : Plain service.ns) (hname : Plain service.name)
    (hports : ∀ p ∈ service.ports, ∀ n, p.name = some n → Plain n) (haddr : Plain addr) :
    let machine := (MachineInput.ofService service config).config
    ∃ (client : Document) (control : MachineService) (others : List MachineService)
        (text : String),
      Document.read? (ClientConfig.ofService service addr 7000).render = some client ∧
      client.top = .ofList [("serverAddr", .string addr), ("serverPort", .integer 7000)] ∧
      client.sections = (service.ports.map fun p => ("proxies", .ofList [
        ("name", .string s!"{service.ns}-{service.name}-{Proxy.suffix p}"),
        ("type", .string (Transport.ofPort p).word),
        ("localIP", .string s!"{service.name}.{service.ns}.svc.cluster.local"),
        ("localPort", .integer p.port.toInt),
        ("remotePort", .integer p.port.toInt)])) ∧
      machine.services = control :: others ∧
      (client.array "proxies").map (fun t => (t.get? "type", t.get? "remotePort")) =
        others.map (fun s =>
          (some (.string s.protocol), some (.integer s.internalPort.toInt))) ∧
      (∀ s ∈ machine.services, s.ports.map (·.port) = [s.internalPort]) ∧
      machine.env.get? "FRP_SERVER_CONFIG" = some text ∧
      Document.read? text =
        some ⟨.ofList [("bindPort", .integer control.internalPort.toInt)], []⟩ ∧
      client.top.get? "serverPort" = some (.integer control.internalPort.toInt) := by
  intro machine
  have hplain := ClientConfig.plain_ofService hns hname hports haddr 7000
  have hread := ClientConfig.read?_render hplain
  refine ⟨_, _, _, _, hread, rfl, ?_, rfl, ?_, ?_, ?_, read?_serverConfig controlPort, ?_⟩
  · exact List.map_map
  · rw [ClientConfig.array_proxies, ClientConfig.ofService, List.map_map, List.map_map,
      List.map_map]
    refine List.map_congr_left fun p _ => ?_
    exact Prod.ext (Proxy.get?_type _) (Proxy.get?_remotePort _)
  · refine List.forall_mem_cons.mpr ⟨rfl, fun s hs => ?_⟩
    obtain ⟨p, -, rfl⟩ := List.mem_map.mp hs
    rfl
  · exact Dict.get?_insert_self _ _ _
  · exact ClientConfig.get?_serverPort _

/-- A Service with a named port, one without a name, and one whose number is no port at all. -/
def manyPorts : Kube.Service where
  metadata := { ns := some "games", name := some "lobby" }
  spec := some { ports := some [
    { name := some "query", port := 27015, protocol := some "UDP" },
    { port := 27015 },
    { name := some "", port := -1, protocol := some "SCTP" }] }

/-- The ends agree on one number for both transports, and on the number that is no port. -/
theorem ends_agree_lobby :
    (Plain manyPorts.ns ∧ Plain manyPorts.name ∧
      (∀ p ∈ manyPorts.ports, ∀ n, p.name = some n → Plain n) ∧ Plain "137.66.0.2") ∧
    ∃ client,
      Document.read? (ClientConfig.ofService manyPorts "137.66.0.2" 7000).render = some client ∧
      (client.array "proxies").map (fun t => (t.get? "type", t.get? "remotePort")) = [
        (some (.string "udp"), some (.integer 27015)),
        (some (.string "tcp"), some (.integer 27015)),
        (some (.string "tcp"), some (.integer (-1)))] := by
  have hns : Plain manyPorts.ns := by decide
  have hname : Plain manyPorts.name := by decide
  have haddr : Plain "137.66.0.2" := by decide
  have hports : ∀ p ∈ manyPorts.ports, ∀ n ∈ p.name, Plain n := by decide
  obtain ⟨client, control, others, text, hread, -, -, hservices, hagree, -⟩ :=
    ends_agree sampleConfig hns hname hports haddr
  refine ⟨⟨hns, hname, hports, haddr⟩, client, hread, ?_⟩
  rw [hagree, ← (List.cons.inj hservices).2]
  decide

end ServiceTunnel
