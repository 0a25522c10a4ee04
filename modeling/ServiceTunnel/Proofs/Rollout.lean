import ServiceTunnel.Proofs.Derived
import ServiceTunnel.Proofs.Rendered

/-!
# ServiceTunnel.Proofs.Rollout

**The pods of a client are replaced exactly when its content changes.** The text of a configuration
tells what it was made from (`ClientConfig.render_inj`): every value in it is closed by a mark that
it does not contain, a quote or the end of the line. What it is made from are the address of the
server and what each port shows of itself, its `route`; nothing else of a Service is in it, nor in
the objects of the client.
-/

namespace ServiceTunnel

/-! ### What is closed by a mark -/

/-- What stands before a mark ends where the mark comes for the first time. -/
theorem append_mark_inj {mark : Char} {cs ds s t : List Char} (hcs : mark ∉ cs) (hds : mark ∉ ds)
    (h : cs ++ mark :: s = ds ++ mark :: t) : cs = ds ∧ s = t := by
  induction cs generalizing ds with
  | nil =>
      cases ds with
      | nil => exact ⟨rfl, (List.cons.inj h).2⟩
      | cons d ds => exact absurd ((List.cons.inj h).1 ▸ List.mem_cons_self) hds
  | cons c cs ih =>
      cases ds with
      | nil => exact absurd ((List.cons.inj h).1 ▸ List.mem_cons_self) hcs
      | cons d ds =>
          obtain ⟨hhead, htail⟩ := List.cons.inj h
          obtain ⟨hrest, hend⟩ :=
            ih (fun hmem => hcs (List.mem_cons_of_mem _ hmem))
              (fun hmem => hds (List.mem_cons_of_mem _ hmem)) htail
          exact ⟨by rw [hhead, hrest], hend⟩

namespace Digest

theorem hexChars_inj {as bs : List UInt8} : hexChars as = hexChars bs ↔ as = bs := by
  have hdigit : ∀ m < 16, ∀ n < 16, hexDigit m = hexDigit n → m = n := by decide
  refine ⟨fun h => ?_, congrArg hexChars⟩
  induction as generalizing bs with
  | nil =>
      cases bs with
      | nil => rfl
      | cons b bs => cases h
  | cons a as ih =>
      cases bs with
      | nil => cases h
      | cons b bs =>
          have ha := a.toNat_lt
          have hb := b.toNat_lt
          obtain ⟨hhigh, hrest⟩ := List.cons.inj h
          obtain ⟨hlow, htail⟩ := List.cons.inj hrest
          have hdiv := hdigit _ (by omega) _ (by omega) hhigh
          have hmod := hdigit _ (by omega) _ (by omega) hlow
          have hbyte : a = b := UInt8.toNat_inj.mp (by omega)
          rw [hbyte, ih htail]

end Digest

namespace Frp

/-! ### What the text of a proxy tells -/

/-- The text has no quote in it. -/
def Unquoted (text : String) : Prop := '"' ∉ text.toList

instance (text : String) : Decidable (Unquoted text) :=
  inferInstanceAs (Decidable ('"' ∉ text.toList))

theorem Unquoted.append {a b : String} (ha : Unquoted a) (hb : Unquoted b) :
    Unquoted (a ++ b) := by
  unfold Unquoted
  rw [String.toList_append, List.mem_append]
  exact not_or.mpr ⟨ha, hb⟩

theorem unquoted_of_plain {text : String} (h : Toml.Plain text) : Unquoted text := by
  intro hmem
  exact absurd (h _ hmem) (by decide)

theorem Transport.word_inj {s t : Transport} : s.word = t.word ↔ s = t := by
  cases s <;> cases t <;> decide

theorem portText_inj {m n : Int32} : portText m = portText n ↔ m = n := by
  refine ⟨fun h => ?_, congrArg portText⟩
  have hread := Toml.readSigned_toString m.toInt
  rw [show toString m.toInt = toString n.toInt from h, Toml.readSigned_toString] at hread
  exact (Int32.toInt_inj.mp (Option.some.inj hread)).symm

/-- The text of a proxy, with what follows each of its values. A Service may be called anything
here, so the text is not taken apart at its lines. -/
theorem Proxy.render_append (p : Proxy) (rest : List Char) : p.render.toList ++ rest =
    "\n[[proxies]]\nname = \"".toList ++ (p.name.toList ++ '"' ::
      ("\ntype = \"".toList ++ (p.transport.word.toList ++ '"' ::
        ("\nlocalIP = \"".toList ++ (p.localIp.toList ++ ("\"\nlocalPort = ".toList ++
          ((portText p.localPort).toList ++ '\n' :: ("remotePort = ".toList ++
            ((portText p.remotePort).toList ++ '\n' :: rest))))))))) := by
  unfold render
  simp only [toString, String.toList_append, List.append_assoc]
  rfl

/-- Of two proxies that lead to the same address and whose names begin alike, the texts tell the
rest of the name, the transport and the port. -/
theorem Proxy.render_inj {p q : Proxy} {front u v : String} (hp : p.name = front ++ u)
    (hq : q.name = front ++ v) (hu : Unquoted u) (hv : Unquoted v) (hip : p.localIp = q.localIp)
    {s t : List Char} (h : p.render.toList ++ s = q.render.toList ++ t) :
    u = v ∧ p.transport = q.transport ∧ p.localPort = q.localPort ∧ s = t := by
  rw [p.render_append, q.render_append, hp, hq, hip, String.toList_append, String.toList_append,
    List.append_assoc, List.append_assoc] at h
  -- what both texts say alike is cancelled, up to the next value and its mark
  obtain ⟨hname, h⟩ := append_mark_inj hu hv
    (List.append_cancel_left (List.append_cancel_left h))
  obtain ⟨hword, h⟩ := append_mark_inj (unquoted_of_plain p.transport.plain_word)
    (unquoted_of_plain q.transport.plain_word) (List.append_cancel_left h)
  obtain ⟨hport, h⟩ := append_mark_inj (oneLine_portText _) (oneLine_portText _)
    (List.append_cancel_left (List.append_cancel_left (List.append_cancel_left h)))
  obtain ⟨-, hrest⟩ := append_mark_inj (oneLine_portText _) (oneLine_portText _)
    (List.append_cancel_left h)
  exact ⟨String.toList_inj.mp hname, Transport.word_inj.mp (String.toList_inj.mp hword),
    portText_inj.mp (String.toList_inj.mp hport), hrest⟩

/-! ### What the text of a configuration tells -/

section Services

variable {a b : Kube.Service} (hns : a.ns = b.ns) (hname : a.name = b.name)

include hns hname

/-- The texts of the proxies tell the routes of the ports. -/
theorem routes_inj {ps qs : List Kube.ServicePort} (hps : ∀ p ∈ ps, Unquoted (Proxy.suffix p))
    (hqs : ∀ q ∈ qs, Unquoted (Proxy.suffix q))
    (h : ps.flatMap (fun p => (Proxy.ofPort a p).render.toList) =
      qs.flatMap fun q => (Proxy.ofPort b q).render.toList) :
    ps.map Proxy.route = qs.map Proxy.route := by
  have hnonempty : ∀ (p : Proxy) (rest : List Char), p.render.toList ++ rest ≠ [] := by
    intro p rest hnil
    rw [p.render_append] at hnil
    cases hnil
  -- no proxy is written as nothing, so both lists end together
  induction ps generalizing qs with
  | nil =>
      cases qs with
      | nil => rfl
      | cons q qs => exact absurd h.symm (hnonempty _ _)
  | cons p ps ih =>
      cases qs with
      | nil => exact absurd h (hnonempty _ _)
      | cons q qs =>
          obtain ⟨hp, hps⟩ := List.forall_mem_cons.mp hps
          obtain ⟨hq, hqs⟩ := List.forall_mem_cons.mp hqs
          have hfront : (Proxy.ofPort b q).name = s!"{a.ns}-{a.name}-" ++ Proxy.suffix q := by
            rw [hns, hname]
            rfl
          have hip : (Proxy.ofPort a p).localIp = (Proxy.ofPort b q).localIp := by
            rw [Proxy.ofPort, Proxy.ofPort, Proxy.clusterAddress, Proxy.clusterAddress, hns, hname]
          obtain ⟨hsuffix, htransport, hport, hrest⟩ := Proxy.render_inj rfl hfront hp hq hip h
          have hroute : Proxy.route p = Proxy.route q :=
            Prod.ext hsuffix (Prod.ext htransport hport)
          rw [List.map_cons, List.map_cons, hroute, ih hps hqs hrest]

end Services

theorem ClientConfig.toList_render_ofService (service : Kube.Service) (addr : String)
    (port : Int32) : (ofService service addr port).render.toList =
      "serverAddr = \"".toList ++ (addr.toList ++ '"' ::
        ("\nserverPort = ".toList ++ ((portText port).toList ++ '\n' ::
          service.ports.flatMap fun p => (Proxy.ofPort service p).render.toList))) := by
  have hproxies : (String.join ((service.ports.map (Proxy.ofPort service)).map (·.render))).toList =
      service.ports.flatMap fun p => (Proxy.ofPort service p).render.toList := by
    rw [String.toList_join, List.flatMap_map, List.flatMap_map]
  unfold render ofService
  rw [String.toList_append, hproxies]
  simp only [toString, String.toList_append, List.append_assoc]
  rfl

/-- The text of a Service's configuration tells the address and the routes. -/
theorem ClientConfig.render_inj {a b : Kube.Service} (hns : a.ns = b.ns) (hname : a.name = b.name)
    {addr addr' : String} (haddr : Unquoted addr) (haddr' : Unquoted addr')
    (ha : ∀ p ∈ a.ports, Unquoted (Proxy.suffix p))
    (hb : ∀ p ∈ b.ports, Unquoted (Proxy.suffix p)) {port : Int32}
    (h : (ofService a addr port).render = (ofService b addr' port).render) :
    addr = addr' ∧ a.ports.map Proxy.route = b.ports.map Proxy.route := by
  have htexts := congrArg String.toList h
  rw [toList_render_ofService, toList_render_ofService] at htexts
  obtain ⟨hsame, htexts⟩ := append_mark_inj haddr haddr' (List.append_cancel_left htexts)
  obtain ⟨-, hproxies⟩ := append_mark_inj (oneLine_portText _) (oneLine_portText _)
    (List.append_cancel_left htexts)
  exact ⟨String.toList_inj.mp hsame, routes_inj hns hname ha hb hproxies⟩

end Frp

/-! ### Pods -/

namespace Workload

/-- What the pods of a workload are made from. -/
def template? (w : Workload) : Option Kube.PodTemplate := w.deployment.spec.map (·.template)

/-- The labels by which the Deployment of a workload knows its pods. -/
def selector? (w : Workload) : Option (Dict String String) :=
  w.deployment.spec.bind (·.selector.matchLabels)

/-- The labels of the pods of a workload. -/
def podLabels? (w : Workload) : Option (Dict String String) :=
  w.template?.bind fun t => t.metadata.bind (·.labels)

/-- The annotations of the pods of a workload. -/
def podAnnotations? (w : Workload) : Option (Dict String String) :=
  w.template?.bind fun t => t.metadata.bind (·.annotations)

/-- A container of the pod reads its configuration from a volume that is filled from the
ConfigMap. -/
def Mounts (pod : Kube.PodSpec) (configMap : Kube.ConfigMap) : Prop :=
  ∃ container ∈ pod.containers, ∃ mount ∈ container.volumeMounts.getD [],
    ∃ volume ∈ pod.volumes.getD [], ∃ source,
      container.args = some ["-c", s!"{mount.mountPath}/{configKey}"] ∧
      volume.name = mount.name ∧ volume.configMap = some source ∧
      configMap.metadata.name = some source.name

/-- The objects of a workload belong together: its Deployment finds the pods that it makes, and
they read the ConfigMap beside it and carry the digest of the text in it. -/
structure Coherent (w : Workload) : Prop where
  selects : ∃ selector labels, w.selector? = some selector ∧ w.podLabels? = some labels ∧
    ∀ key value, selector.get? key = some value → labels.get? key = some value
  together : w.configMap.metadata.ns = w.deployment.metadata.ns
  mounts : ∃ pod, w.template?.bind (·.spec) = some pod ∧ Mounts pod w.configMap
  hash : ∃ text, w.configMap.data.bind (·.get? configKey) = some text ∧
    w.podAnnotations?.bind (·.get? Annotations.configHash) = some (configHash text)

/-- The pods have the labels that they are known by, beside others. -/
theorem get?_labels {service : Kube.Service} {key value : String}
    (h : (selectorLabels service).get? key = some value) :
    (labels service).get? key = some value := by
  have hforeign : (selectorLabels service).get? "app.kubernetes.io/managed-by" = none :=
    (Dict.get?_insert_ne _ (show _ ≠ Annotations.serviceLabel by decide) _).trans
      (Dict.get?_insert_ne _ (show _ ≠ "app.kubernetes.io/name" by decide) _)
  have hkey : key ≠ "app.kubernetes.io/managed-by" := by
    rintro rfl
    rw [hforeign] at h
    cases h
  rw [labels, Dict.get?_insert_ne _ hkey, h]

namespace Client

theorem coherent (c : Client) (service : Kube.Service) : (c.workload service).Coherent where
  selects := ⟨selectorLabels service, labels service, rfl, rfl, fun _ _ h => get?_labels h⟩
  together := rfl
  mounts := ⟨_, rfl, c.container, List.mem_singleton_self _, _, List.mem_singleton_self _, _,
    List.mem_singleton_self _, _, rfl, rfl, rfl, rfl⟩
  hash := by
    refine ⟨c.config service, Dict.get?_insert_self _ _ _, ?_⟩
    exact Dict.get?_insert_self _ _ _

/-- Pods that carry the same digest have the same configuration, if there is no collision. -/
theorem config_eq_of_template_eq {a b : Kube.Service} {c d : Client}
    (hhash : Digest.sha256 (c.config a).toUTF8.data.toList =
      Digest.sha256 (d.config b).toUTF8.data.toList → c.config a = d.config b)
    (h : c.template a = d.template b) : c.config a = d.config b := by
  have hannotations := congrArg (fun t : Kube.PodTemplate =>
    (t.metadata.bind (·.annotations)).bind (·.get? Annotations.configHash)) h
  have hdigest : some (configHash (c.config a)) = some (configHash (d.config b)) :=
    (Dict.get?_insert_self _ _ _).symm.trans (hannotations.trans (Dict.get?_insert_self _ _ _))
  exact hhash (Digest.hexChars_inj.mp (String.ofList_inj.mp (Option.some.inj hdigest)))

theorem container_eq_of_template_eq {a b : Kube.Service} {c d : Client}
    (h : c.template a = d.template b) : c.container = d.container := by
  have hcontainers := congrArg (fun t : Kube.PodTemplate => t.spec.map (·.containers)) h
  exact List.singleton_inj.mp (Option.some.inj hcontainers)

theorem template_eq_iff {a b : Kube.Service} {c d : Client} (hns : a.ns = b.ns)
    (hname : a.name = b.name) (hdeployment : c.deploymentName = d.deploymentName)
    (haddr : Frp.Unquoted c.serverAddr) (haddr' : Frp.Unquoted d.serverAddr)
    (ha : ∀ p ∈ a.ports, ∀ n, p.name = some n → Frp.Unquoted n)
    (hb : ∀ p ∈ b.ports, ∀ n, p.name = some n → Frp.Unquoted n)
    (hhash : Digest.sha256 (c.config a).toUTF8.data.toList =
      Digest.sha256 (d.config b).toUTF8.data.toList → c.config a = d.config b) :
    c.template a = d.template b ↔ c.image = d.image ∧ c.resources = d.resources ∧
      c.serverAddr = d.serverAddr ∧
      a.ports.map Frp.Proxy.route = b.ports.map Frp.Proxy.route := by
  have hsuffix : ∀ {p : Kube.ServicePort}, (∀ n, p.name = some n → Frp.Unquoted n) →
      Frp.Unquoted (Frp.Proxy.suffix p) := fun hp =>
    Frp.Proxy.text_suffix Frp.Unquoted.append Frp.unquoted_of_plain hp
  constructor
  · intro h
    have hcontainer := container_eq_of_template_eq h
    have himage : some c.image = some d.image := congrArg Kube.Container.image hcontainer
    have hresources : some c.resources = some d.resources :=
      congrArg Kube.Container.resources hcontainer
    obtain ⟨hsame, hroutes⟩ := Frp.ClientConfig.render_inj hns hname haddr haddr'
      (fun p hp => hsuffix (ha p hp)) (fun p hp => hsuffix (hb p hp))
      (config_eq_of_template_eq hhash h)
    exact ⟨Option.some.inj himage, Option.some.inj hresources, hsame, hroutes⟩
  · rintro ⟨himage, hresources, hsame, hroutes⟩
    have hconfig := config_congr hns hname hroutes hsame
    simp only [template, container, (labels_congr hns hname).1, hconfig, hdeployment, himage,
      hresources]

end Client

/-- **Pods are replaced exactly when what they run changes.** For Services of one name and clients
of one Deployment, let the addresses and the names of ports be without quotes, and let the digests
of the two configurations not collide. Then the pods are made from the same if and only if image,
resources, address and the routes of the ports are the same. The selector is always the same; the
objects of a client belong together; and whatever else is changed on a Service changes none of
them. -/
theorem rolls_out_exactly {a b : Kube.Service} {c d : Client} (hns : a.ns = b.ns)
    (hname : a.name = b.name) (hdeployment : c.deploymentName = d.deploymentName)
    (haddr : Frp.Unquoted c.serverAddr) (haddr' : Frp.Unquoted d.serverAddr)
    (ha : ∀ p ∈ a.ports, ∀ n, p.name = some n → Frp.Unquoted n)
    (hb : ∀ p ∈ b.ports, ∀ n, p.name = some n → Frp.Unquoted n)
    (hhash : Digest.sha256 (c.config a).toUTF8.data.toList =
      Digest.sha256 (d.config b).toUTF8.data.toList → c.config a = d.config b) :
    ((c.workload a).template? = (d.workload b).template? ↔
      c.image = d.image ∧ c.resources = d.resources ∧ c.serverAddr = d.serverAddr ∧
        a.ports.map Frp.Proxy.route = b.ports.map Frp.Proxy.route) ∧
      (c.workload a).selector? = (d.workload b).selector? ∧
      (c.workload a).Coherent ∧
      (a.ports.map Frp.Proxy.route = b.ports.map Frp.Proxy.route →
        c.workload a = c.workload b) := by
  refine ⟨?_, ?_, c.coherent a, fun hroutes => Client.workload_congr hns hname hroutes c⟩
  · rw [← Client.template_eq_iff hns hname hdeployment haddr haddr' ha hb hhash]
    exact Option.some_inj
  · exact congrArg some (labels_congr hns hname).2

/-- A client that may use whatever it needs. -/
def sampleClient : Client where
  deploymentName := "frpc-default-web"
  ns := "default"
  image := "frpc:latest"
  serverAddr := "192.0.2.1"
  resources := {}

/-- A Service with one port, which may have a number on the nodes. -/
def samplePort (port : Int32) (nodePort : Option Int32) : Kube.Service where
  metadata := { ns := some "default", name := some "web" }
  spec := some { ports := some [{ port := port, nodePort := nodePort }] }

/-- Another port replaces the pods, and a number on the nodes does not. -/
theorem rolls_out_exactly_port :
    let before := samplePort 80 none
    let moved := samplePort 81 none
    let exposed := samplePort 80 (some 30080)
    Digest.sha256 (sampleClient.config before).toUTF8.data.toList ≠
        Digest.sha256 (sampleClient.config moved).toUTF8.data.toList ∧
      (sampleClient.workload before).template? ≠ (sampleClient.workload moved).template? ∧
      (sampleClient.workload before).selector? = (sampleClient.workload moved).selector? ∧
      before ≠ exposed ∧ sampleClient.workload before = sampleClient.workload exposed := by
  intro before moved exposed
  have hnone : ∀ port nodePort, ∀ p ∈ (samplePort port nodePort).ports, ∀ n, p.name = some n →
      Frp.Unquoted n := by
    intro port nodePort p hp n hn
    obtain rfl := List.mem_singleton.mp hp
    cases hn
  have haddr : Frp.Unquoted sampleClient.serverAddr := by decide
  have hhash : Digest.sha256 (sampleClient.config before).toUTF8.data.toList ≠
      Digest.sha256 (sampleClient.config moved).toUTF8.data.toList := by
    decide +kernel
  obtain ⟨hport, hselector, -, -⟩ := rolls_out_exactly (a := before) (b := moved)
    (c := sampleClient) (d := sampleClient) rfl rfl rfl haddr haddr (hnone _ _) (hnone _ _)
    fun h => absurd h hhash
  obtain ⟨-, -, -, hnode⟩ := rolls_out_exactly (a := before) (b := exposed) (c := sampleClient)
    (d := sampleClient) rfl rfl rfl haddr haddr (hnone _ _) (hnone _ _)
    fun _ => by decide +kernel
  exact ⟨hhash, fun h => absurd (hport.mp h).2.2.2 (by decide), hselector, by decide, hnode rfl⟩

end Workload

end ServiceTunnel
