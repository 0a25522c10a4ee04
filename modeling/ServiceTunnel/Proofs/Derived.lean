import Mathlib.Data.List.TakeWhile
import ServiceTunnel.Lifecycle
import ServiceTunnel.Proofs.Record

/-!
# ServiceTunnel.Proofs.Derived

**What the parts of a tunnel are made from.** The names, the machine, the requirements and the
client of a tunnel depend on the name and the ports of its Service and on what its users ask for,
and not on what the operator has written on it. Two Services that agree in the former are `Alike`,
and everything that is derived from them is the same.

Names that begin with a letter are never empty (`Name.derive_ne_empty`), so a recorded name is
always read back.
-/

namespace ServiceTunnel

open Kube

/-! ### Names -/

namespace Text

theorem mem_stripBoth {p : Char → Bool} {cs : List Char} {c : Char} (hc : c ∈ cs)
    (hp : p c = false) : c ∈ stripBoth p cs := by
  have hkeeps : ∀ l : List Char, c ∈ l → c ∈ l.dropWhile p := by
    intro l hl
    have hsplit := List.takeWhile_append_dropWhile (p := p) (l := l)
    rw [← hsplit] at hl
    obtain htaken | hdropped := List.mem_append.mp hl
    · have := List.mem_takeWhile_imp htaken
      rw [hp] at this
      exact absurd this (by decide)
    · exact hdropped
  have hfront := hkeeps cs hc
  have hback := hkeeps _ (List.mem_reverse.mpr hfront)
  exact List.mem_reverse.mpr hback

end Text

namespace Name

theorem mem_collapse {cs : List Char} {c : Char} (hc : c ∈ cs) (hplain : isPlain c = true)
    (inRun : Bool) : c ∈ collapse inRun cs := by
  induction cs generalizing inRun with
  | nil => exact absurd hc List.not_mem_nil
  | cons d rest ih =>
      unfold collapse
      obtain rfl | hrest := List.mem_cons.mp hc
      · rw [if_pos hplain]
        exact List.mem_cons_self
      · split
        · exact List.mem_cons_of_mem _ (ih hrest _)
        split
        · exact ih hrest _
        · exact List.mem_cons_of_mem _ (ih hrest _)

theorem shorten_ne_nil {digest cs : List Char} (h : cs ≠ []) : shorten digest cs ≠ [] := by
  unfold shorten
  split
  · exact h
  · exact List.append_ne_nil_of_right_ne_nil _ (List.cons_ne_nil _ _)

/-- A text with a plain character in its lower-case form is not reduced to nothing. -/
theorem sanitize_ne_empty {text : String} {c : Char} (hplain : isPlain c = true)
    (hc : c ∈ (Text.lowercase text).toList) : sanitize text ≠ "" := by
  intro hempty
  have hdash : (c == '-') = false := by
    cases hd : c == '-' with
    | false => rfl
    | true =>
        rw [eq_of_beq hd] at hplain
        exact absurd hplain (by decide)
  have hsqueezed : c ∈ squeeze (Text.lowercase text).toList :=
    Text.mem_stripBoth (mem_collapse hc hplain false) hdash
  exact shorten_ne_nil (List.ne_nil_of_mem hsqueezed)
    (String.ofList_injective (hempty.trans String.ofList_nil.symm))

/-- Every kind of name but the label begins with a letter. -/
theorem derive_ne_empty {kind : Kind} (hkind : kind ≠ .label) (ns name : String) :
    derive kind ns name ≠ "" := by
  have hfirst : ∃ rest, kind.stem.toList = 'f' :: rest := by
    cases kind with
    | label => exact absurd rfl hkind
    | _ => exact ⟨_, rfl⟩
  obtain ⟨rest, hrest⟩ := hfirst
  refine sanitize_ne_empty (c := 'f') (by decide) ?_
  rw [Text.lowercase, String.toList_ofList, String.toList_append, String.toList_append,
    String.toList_append, hrest, List.cons_append, List.cons_append, List.cons_append,
    Text.lowerFrom, if_neg (by decide)]
  exact List.mem_append_left _ (by decide)

theorem ofService_ne_empty {kind : Kind} (hkind : kind ≠ .label) (service : Service) :
    ofService kind service ≠ "" :=
  derive_ne_empty hkind service.ns service.name

end Name

/-! ### What the users ask for -/

section Wishes

variable {a b : Dict String String}
  (h : ∀ key, key ∉ Annotations.recordKeys → a.get? key = b.get? key)

include h

theorem Annotations.nonEmpty?_congr {key : String} (hkey : key ∉ recordKeys) :
    nonEmpty? a key = nonEmpty? b key := by
  rw [nonEmpty?, nonEmpty?, h key hkey]

/-- What the operator has written changes no requirement. -/
theorem Requirements.resolve_congr : resolve a = resolve b := by
  have hoverride : ∀ key, key ∉ Annotations.recordKeys → override? a key = override? b key := by
    intro key hkey
    rw [override?, override?, Annotations.nonEmpty?_congr h hkey]
  rw [resolve, resolve, hoverride Annotations.cpuRequest (by decide),
    hoverride Annotations.cpuLimit (by decide), hoverride Annotations.memoryRequest (by decide),
    hoverride Annotations.memoryLimit (by decide)]

theorem Placement.ofAnnotations_congr : ofAnnotations a = ofAnnotations b := by
  rw [ofAnnotations, ofAnnotations,
    Annotations.nonEmpty?_congr h (show Annotations.flyRegion ∉ Annotations.recordKeys by decide),
    Annotations.nonEmpty?_congr h
      (show Annotations.flyMachineSize ∉ Annotations.recordKeys by decide)]

end Wishes

/-! ### What a Service shows of itself -/

/-- What a port shows of itself in a client's configuration. -/
def Frp.Proxy.route (p : ServicePort) : String × Transport × Int32 :=
  (suffix p, .ofPort p, p.port)

/-- The proxy for a route. -/
def Frp.Proxy.ofRoute (service : Service) (route : String × Transport × Int32) : Proxy where
  name := s!"{service.ns}-{service.name}-{route.1}"
  transport := route.2.1
  localIp := clusterAddress service
  localPort := route.2.2
  remotePort := route.2.2

section Shown

variable {a b : Service} (hns : a.ns = b.ns) (hname : a.name = b.name)

include hns hname

theorem Name.ofService_congr (kind : Kind) : ofService kind a = ofService kind b := by
  rw [ofService, ofService, hns, hname]

theorem Workload.labels_congr : labels a = labels b ∧ selectorLabels a = selectorLabels b := by
  have hselector : selectorLabels a = selectorLabels b := by
    rw [selectorLabels, selectorLabels, Name.ofService_congr hns hname]
  exact ⟨by rw [labels, labels, hselector], hselector⟩

variable (hroutes : a.ports.map Frp.Proxy.route = b.ports.map Frp.Proxy.route)

include hroutes

theorem Frp.ClientConfig.ofService_congr (addr : String) (port : Int32) :
    ofService a addr port = ofService b addr port := by
  have hports : ∀ s : Service, s.ports.map (.ofPort s) =
      (s.ports.map Proxy.route).map (Proxy.ofRoute s) := by
    intro s
    rw [List.map_map]
    rfl
  have hofRoute : Proxy.ofRoute a = Proxy.ofRoute b := by
    funext r
    rw [Proxy.ofRoute, Proxy.ofRoute, Proxy.clusterAddress, Proxy.clusterAddress, hns, hname]
  rw [ofService, ofService, hports, hports, hroutes, hofRoute]

theorem Workload.Client.config_congr {c d : Client} (haddr : c.serverAddr = d.serverAddr) :
    c.config a = d.config b := by
  rw [config, config, Frp.ClientConfig.ofService_congr hns hname hroutes, haddr]

/-- Of a Service its name and the routes of its ports are in the objects of a client. -/
theorem Workload.Client.workload_congr (c : Client) : c.workload a = c.workload b := by
  obtain ⟨hlabels, hselector⟩ := labels_congr hns hname
  have hconfig : c.config a = c.config b := config_congr hns hname hroutes rfl
  simp only [workload, configMap, deployment, template, hlabels, hselector, hconfig]

end Shown

/-! ### Services alike -/

/-- Two Services with the same name and ports and the same annotations from their users. -/
structure Kube.Service.Alike (a b : Service) : Prop where
  ns : a.ns = b.ns
  name : a.name = b.name
  ports : a.ports = b.ports
  wishes : ∀ key, key ∉ Annotations.recordKeys →
    a.annotations.get? key = b.annotations.get? key

namespace Kube.Service.Alike

variable {a b : Service}

theorem ofService (h : a.Alike b) (kind : Name.Kind) :
    Name.ofService kind a = Name.ofService kind b :=
  Name.ofService_congr h.ns h.name kind

theorem requirements (h : a.Alike b) : Lifecycle.requirements a = Lifecycle.requirements b := by
  rw [Lifecycle.requirements, Lifecycle.requirements, Requirements.resolve_congr h.wishes]

theorem input (h : a.Alike b) (config : TunnelConfig) :
    MachineInput.ofService a config = MachineInput.ofService b config := by
  simp only [MachineInput.ofService, Placement.ofAnnotations_congr h.wishes, h.ofService, h.ports]

theorem workload (h : a.Alike b) (config : TunnelConfig) (name address : String)
    (requirements : Requirements) :
    Lifecycle.workload config a name address requirements =
      Lifecycle.workload config b name address requirements := by
  rw [Lifecycle.workload, Lifecycle.workload, Workload.build, Workload.build,
    Workload.Client.workload_congr h.ns h.name (by rw [h.ports])]

end Kube.Service.Alike

/-- Recording a tunnel changes nothing that the tunnel is made from. -/
theorem Kube.Service.alike_record (service : Service) (tunnel : Tunnel) :
    service.Alike (service.withAnnotations
      (service.annotations.merge (TunnelRecord.ofTunnel tunnel).toAnnotations)) where
  ns := rfl
  name := rfl
  ports := rfl
  wishes _ hkey := (TunnelRecord.get?_merge_of_notMem service.annotations tunnel hkey).symm

end ServiceTunnel
