import ServiceTunnel.Proofs.Drift
import ServiceTunnel.Proofs.Rendered
import ServiceTunnel.Proofs.Words

/-!
# ServiceTunnel.Proofs.Injected

**What an address adds to the client's configuration.** The address of the server is written
between quotes as it is. A break in it ends the line, and what follows stands on lines of its own
(`injected`). So the text names the server once, its port once, and opens one proxy for each port
of the Service, and beyond that it says what those lines say (`ClientConfig.census_render`). A
tunnel that is kept in step with its Service has the address that the record on the Service holds:
an address with lines in it adds a server or a proxy (`update_census`, `update_injects_proxy`).
-/

namespace ServiceTunnel.Frp

open Toml

/-! ### Counting lines -/

/-- How many lines give the server's address, how many its port, and how many open a proxy. -/
structure Census where
  addresses : Nat
  ports : Nat
  proxies : Nat
deriving DecidableEq

namespace Census

instance : Add Census where
  add a b := ⟨a.addresses + b.addresses, a.ports + b.ports, a.proxies + b.proxies⟩

theorem mk_add_mk (a b c a' b' c' : Nat) :
    (⟨a, b, c⟩ + ⟨a', b', c'⟩ : Census) = ⟨a + a', b + b', c + c'⟩ := rfl

theorem add_eq_left {a b : Census} : a + b = a ↔ b = ⟨0, 0, 0⟩ := by
  obtain ⟨x, y, z⟩ := a
  obtain ⟨x', y', z'⟩ := b
  rw [mk_add_mk, mk.injEq, mk.injEq]
  omega

/-- The census of lines. -/
def ofLines (ls : List (List Char)) : Census where
  addresses := ls.countP ("serverAddr = ".toList.isPrefixOf ·)
  ports := ls.countP ("serverPort = ".toList.isPrefixOf ·)
  proxies := ls.count "[[proxies]]".toList

theorem ofLines_append (a b : List (List Char)) : ofLines (a ++ b) = ofLines a + ofLines b := by
  unfold ofLines
  rw [List.countP_append, List.countP_append, List.count_append]
  rfl

theorem ofLines_proxies (ps : List Proxy) :
    ofLines (ps.flatMap (·.lines)) = ⟨0, 0, ps.length⟩ := by
  induction ps with
  | nil => rfl
  | cons p ps ih =>
      have hproxy : ofLines p.lines = ⟨0, 0, 1⟩ := rfl
      rw [List.flatMap_cons, ofLines_append, hproxy, ih, mk_add_mk, List.length_cons,
        Nat.add_comm 1]

end Census

/-! ### The lines of an address -/

/-- The lines that an address brings along: what follows its first break, up to the quote that is
written behind it. -/
def injected (addr : String) : List (List Char) := (Toml.lines (addr.toList ++ ['"'])).tail

/-- An address in one line brings none along. -/
theorem injected_of_oneLine {addr : String} (h : OneLine addr) : injected addr = [] := by
  have hbreak : '\n' ∉ addr.toList ++ ['"'] := by
    rw [List.mem_append]
    exact not_or.mpr ⟨h, by decide⟩
  rw [injected, lines_of_not_mem hbreak]
  rfl

theorem Census.ofLines_address (addr : String) :
    ofLines (Toml.lines (assignment "serverAddr" (quoted addr))) =
      ⟨1, 0, 0⟩ + ofLines (injected addr) := by
  obtain ⟨first, rest, hlines⟩ := List.exists_cons_of_ne_nil
    (List.splitOnP_ne_nil (· == '\n') (addr.toList ++ ['"']))
  have hlines : Toml.lines (addr.toList ++ ['"']) = first :: rest := hlines
  have hwritten : assignment "serverAddr" (quoted addr) =
      "serverAddr = \"".toList ++ (addr.toList ++ ['"']) := rfl
  have hfirst : ofLines ["serverAddr = \"".toList ++ first] = ⟨1, 0, 0⟩ := rfl
  rw [hwritten, lines_append_left (by decide), injected, hlines, List.modifyHead_cons,
    List.tail_cons, ← hfirst, ← ofLines_append, List.singleton_append]

/-- The text names the server once, its port once, and opens as many proxies as there are, beyond
what the address brings along. -/
theorem ClientConfig.census_render {c : ClientConfig}
    (h : ∀ p ∈ c.proxies, OneLine p.name ∧ OneLine p.localIp) :
    Census.ofLines (Toml.lines c.render.toList) =
      ⟨1, 1, c.proxies.length⟩ + Census.ofLines (injected c.serverAddr) := by
  have hproxies : (c.proxies.flatMap (·.lines)).flatMap Toml.lines =
      c.proxies.flatMap (·.lines) := by
    rw [List.flatMap_assoc]
    refine List.flatMap_congr fun p hp => ?_
    exact flatMap_lines_of_not_mem (p.newline_not_mem_lines (h p hp).1 (h p hp).2)
  have hport : Toml.lines (assignment "serverPort" (portText c.serverPort).toList) =
      [assignment "serverPort" (portText c.serverPort).toList] :=
    lines_of_not_mem (newline_not_mem_assignment (by decide) (oneLine_portText _))
  have hcounted : Census.ofLines [assignment "serverPort" (portText c.serverPort).toList] =
      ⟨0, 1, 0⟩ := rfl
  have hend : Census.ofLines [[]] = ⟨0, 0, 0⟩ := rfl
  rw [c.toList_render, lines_flatMap, lines, List.flatMap_cons, List.flatMap_cons, hport,
    hproxies, Census.ofLines_append, Census.ofLines_append, Census.ofLines_append,
    Census.ofLines_address, hcounted, hend, Census.ofLines_proxies]
  obtain ⟨addresses, ports, proxies⟩ := Census.ofLines (injected c.serverAddr)
  simp only [Census.mk_add_mk, Census.mk.injEq]
  omega

/-- The text for a Service whose own texts are in one line each. -/
theorem ClientConfig.census_ofService {service : Kube.Service} (hns : OneLine service.ns)
    (hname : OneLine service.name)
    (hports : ∀ p ∈ service.ports, ∀ n, p.name = some n → OneLine n)
    (addr : String) (port : Int32) :
    Census.ofLines (Toml.lines (ofService service addr port).render.toList) =
      ⟨1, 1, service.ports.length⟩ + Census.ofLines (injected addr) := by
  have htexts : ∀ p ∈ (ofService service addr port).proxies,
      OneLine p.name ∧ OneLine p.localIp := by
    intro proxy hproxy
    obtain ⟨p, hp, rfl⟩ := List.mem_map.mp hproxy
    exact Proxy.texts_ofPort OneLine.append Plain.oneLine hns hname (hports p hp)
  rw [census_render htexts, ofService, List.length_map]

end ServiceTunnel.Frp

namespace ServiceTunnel

open Frp Kube Program Simulation Toml

/-! ### Keeping a tunnel in step -/

/-- The ConfigMap that a call stores. -/
def Call.storedMap? : Call.interface.Event → Option ConfigMap
  | ⟨.workload (.applyConfigMap m), _⟩ => some m
  | _ => none

/-- A call that stores a ConfigMap stores one that is made for the Service and the address that is
recorded on it. -/
def Call.StoresFor (config : TunnelConfig) (service : Service) : Call → Prop
  | .workload (.applyConfigMap m) => ∃ name address requirements,
    (TunnelRecord.ofService service).publicIp = some address ∧
      m = (Lifecycle.workload config service name address requirements).configMap
  | _ => True

theorem Lifecycle.stable_update_stores (config : TunnelConfig) (service : Service) :
    (update config service).Stable (only (Call.StoresFor config service)) (fun _ => True) := by
  refine stable_update (fun name address requirements _ haddress _ => ?_) fun _ _ _ _ => ?_
  · exact stable_applyWorkload (allows_only ⟨name, address, requirements, haddress, rfl⟩)
      (allows_only trivial)
  · exact stable_updateMachine (allows_only trivial) (allows_only trivial)

section

variable {config : TunnelConfig} {service : Service} {σ : Type}
  {answers : σ → (c : Call) → c.Reply → σ → Prop} {s t : σ}
  {events : List Call.interface.Event} {r : Except OperatorError Unit}

theorem Lifecycle.storedMap_of_runs_update
    (hrun : (update config service).Runs answers s events r t) {m : ConfigMap}
    (hm : m ∈ events.filterMap Call.storedMap?) : ∃ name address requirements,
      (TunnelRecord.ofService service).publicIp = some address ∧
        m = (workload config service name address requirements).configMap := by
  obtain ⟨event, hevent, hstored⟩ := List.mem_filterMap.mp hm
  have hstores := hrun.only (stable_update_stores config service () trivial) event hevent
  unfold Call.storedMap? at hstored
  split at hstored
  · cases hstored
    exact hstores
  · cases hstored

/-- Keeping in step that succeeds has stored a ConfigMap. -/
theorem Lifecycle.exists_storedMap (hrun : (update config service).Runs answers s events r t)
    (hok : r = .ok ()) : ∃ m, m ∈ events.filterMap Call.storedMap? := by
  subst hok
  obtain ⟨address, name, app, requirements, first, rest, m, -, -, -, -, rfl, happly, -⟩ :=
    runs_update_ok hrun
  obtain ⟨-, rfl, -⟩ := runs_applyWorkload_ok happly
  exact ⟨_, List.mem_filterMap.mpr ⟨_, List.mem_cons_self, rfl⟩⟩

theorem Lifecycle.get?_configMap (name address : String) (requirements : Requirements) :
    (workload config service name address requirements).configMap.data.bind (·.get? "frpc.toml") =
      some (ClientConfig.ofService service address controlPort).render :=
  Dict.get?_insert_self _ _ _

/-- **What the client's configuration says beyond what is meant.** Let the namespace, the name and
the names of the ports of a Service be in one line each. Whatever its annotations are, whatever is
there and whatever fails: when its tunnel is kept in step, each ConfigMap that is stored names the
server once, its port once, and opens one proxy for each port of the Service, and beyond that it
says what the lines say that the recorded address brings along. It says no more exactly if those
lines name no server and no port and open no proxy, so in particular if the address is in one line.
And if the tunnel is kept in step with success, a ConfigMap is stored. -/
theorem update_census (hns : OneLine service.ns) (hname : OneLine service.name)
    (hports : ∀ p ∈ service.ports, ∀ n, p.name = some n → OneLine n)
    (hrun : (Lifecycle.update config service).Runs answers s events r t) :
    (r = .ok () → ∃ m, m ∈ events.filterMap Call.storedMap?) ∧
    ∀ m ∈ events.filterMap Call.storedMap?, ∃ address text,
      (TunnelRecord.ofService service).publicIp = some address ∧
      m.data.bind (·.get? "frpc.toml") = some text ∧
      Census.ofLines (lines text.toList) =
        ⟨1, 1, service.ports.length⟩ + Census.ofLines (injected address) ∧
      (Census.ofLines (lines text.toList) = ⟨1, 1, service.ports.length⟩ ↔
        Census.ofLines (injected address) = ⟨0, 0, 0⟩) ∧
      (OneLine address → Census.ofLines (injected address) = ⟨0, 0, 0⟩) := by
  refine ⟨Lifecycle.exists_storedMap hrun, fun m hm => ?_⟩
  obtain ⟨name, address, requirements, haddress, rfl⟩ :=
    Lifecycle.storedMap_of_runs_update hrun hm
  have hcensus := ClientConfig.census_ofService hns hname hports address controlPort
  refine ⟨address, _, haddress, Lifecycle.get?_configMap name address requirements, hcensus, ?_,
    fun haddr => by rw [injected_of_oneLine haddr]; rfl⟩
  rw [hcensus]
  exact Census.add_eq_left

end

/-- A Service with a tunnel whose recorded address is a given text. -/
def recordedAt (address : String) : Service :=
  (sampleService "web").withAnnotations (.ofList [
    (Annotations.flyApp, "fly-tunnel-default-web"),
    (Annotations.frpcDeployment, "frpc-default-web"),
    (Annotations.publicIp, address)])

theorem oneLine_recordedAt (address : String) :
    OneLine (recordedAt address).ns ∧ OneLine (recordedAt address).name ∧
      ∀ p ∈ (recordedAt address).ports, ∀ n, p.name = some n → OneLine n := by
  refine ⟨(by decide : OneLine "default"), (by decide : OneLine "web"), ?_⟩
  exact List.forall_mem_singleton.mpr nofun

/-- An address with a break at its end brings along a quote on a line of its own, and nothing is
added. -/
theorem update_census_break :
    let service := recordedAt "137.66.0.2\n"
    (OneLine service.ns ∧ OneLine service.name ∧
      ∀ p ∈ service.ports, ∀ n, p.name = some n → OneLine n) ∧
    ∃ w events w' m text,
      (Lifecycle.update sampleConfig service).Runs Realm.Answers w events (.ok ()) w' ∧
      m ∈ events.filterMap Call.storedMap? ∧ m.data.bind (·.get? "frpc.toml") = some text ∧
      Census.ofLines (lines text.toList) = ⟨1, 1, 1⟩ := by
  intro service
  have hlines := oneLine_recordedAt "137.66.0.2\n"
  obtain ⟨hok, hrecorded⟩ :
      ((World.sample []).run (Lifecycle.update sampleConfig service)).1 = .ok () ∧
        (TunnelRecord.ofService service).publicIp = some "137.66.0.2\n" := by decide +kernel
  obtain ⟨w', hrun, -, -⟩ :=
    World.runs_of_result (v := World.sample []) (Scene.depicts_untouched _) rfl _ hok
  obtain ⟨hstored, hcensus⟩ := update_census hlines.1 hlines.2.1 hlines.2.2 hrun
  obtain ⟨m, hm⟩ := hstored rfl
  obtain ⟨address, text, haddress, htext, -, hexact, -⟩ := hcensus m hm
  obtain rfl := Option.some.inj (hrecorded.symm.trans haddress)
  exact ⟨hlines, _, _, w', m, text, hrun, hm, htext, hexact.mpr (by decide)⟩

/-- An address with the lines of a proxy in it, which leads from the server to the API server of the
cluster. -/
def leakingAddress : String :=
  "137.66.0.2\"\nserverPort = 7000\n\n[[proxies]]\nname = \"apiserver\"\ntype = \"tcp\"\n"
    ++ "localIP = \"kubernetes.default.svc\"\nlocalPort = 443\nremotePort = 443\nnote = \""

/-- A Service with one port and valid names may have a client with two proxies: its annotation adds
one, and the text is still a TOML document. -/
theorem update_injects_proxy :
    let service := recordedAt leakingAddress
    (Name.IsLabel service.ns ∧ Name.IsLabel service.name ∧
      (service.ports.map fun p => (p.name, p.port)) = [(none, 80)]) ∧
    ∃ w events w' m text,
      (Lifecycle.update sampleConfig service).Runs Realm.Answers w events (.ok ()) w' ∧
      m ∈ events.filterMap Call.storedMap? ∧ m.data.bind (·.get? "frpc.toml") = some text ∧
      Census.ofLines (lines text.toList) = ⟨1, 2, 2⟩ ∧
      (Document.read? text).map (fun d => (d.array "proxies").map (·.get? "localIP")) = some [
        some (.string "kubernetes.default.svc"),
        some (.string "web.default.svc.cluster.local")] := by
  intro service
  have hvalid : Name.IsLabel service.ns ∧ Name.IsLabel service.name ∧
      (service.ports.map fun p => (p.name, p.port)) = [(none, 80)] := by decide
  obtain ⟨hok, hrecorded⟩ :
      ((World.sample []).run (Lifecycle.update sampleConfig service)).1 = .ok () ∧
        (TunnelRecord.ofService service).publicIp = some leakingAddress := by decide +kernel
  obtain ⟨hns, hname, hports⟩ := oneLine_recordedAt leakingAddress
  obtain ⟨w', hrun, -, -⟩ :=
    World.runs_of_result (v := World.sample []) (Scene.depicts_untouched _) rfl _ hok
  obtain ⟨m, hm⟩ := Lifecycle.exists_storedMap hrun rfl
  obtain ⟨name, address, requirements, haddress, rfl⟩ :=
    Lifecycle.storedMap_of_runs_update hrun hm
  obtain rfl := Option.some.inj (hrecorded.symm.trans haddress)
  have hadded : Census.ofLines (injected leakingAddress) = ⟨0, 1, 1⟩ := by decide +kernel
  have hcensus := ClientConfig.census_ofService hns hname hports leakingAddress controlPort
  rw [hadded] at hcensus
  refine ⟨hvalid, _, _, w', _, _, hrun, hm,
    Lifecycle.get?_configMap name leakingAddress requirements, hcensus, ?_⟩
  rw [Document.read?, ClientConfig.toList_render]
  decide +kernel

end ServiceTunnel
