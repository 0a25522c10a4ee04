import Mathlib.Data.List.Chain
import Mathlib.Data.List.DropRight
import ServiceTunnel.Proofs.Grammar
import ServiceTunnel.Proofs.Words

/-!
# ServiceTunnel.Proofs.Usable

**Names can always be used.** Whatever text a name is made from, it is short enough, is made of
lower-case letters, digits and single dashes, and has no dash at an end (`isName_sanitize`). Texts
that are names are left alone, and no others (`sanitize_eq_self_iff`). A name that was cut is closed
with digits of a digest behind something of the text. The name of a tunnel's part begins with the
word for its kind (`prefix_derive`), so it is never empty, and a recorded name is read back.
-/

namespace ServiceTunnel.Name

/-! ### What a name is -/

/-- Letters, digits and dashes, with dashes only inside and none beside another. -/
structure Neat (cs : List Char) : Prop where
  chars : ∀ c ∈ cs, (isPlain c || c == '-') = true
  first : cs.head? ≠ some '-'
  last : cs.getLast? ≠ some '-'
  apart : cs.IsChain fun c d => c = '-' → d ≠ '-'

/-- A text that can be used as a name. -/
structure IsName (text : String) : Prop extends Neat text.toList where
  length : text.length ≤ maxLength

instance (text : String) : Decidable (IsName text) :=
  decidable_of_iff ((text.toList.all fun c => isPlain c || c == '-') = true ∧
      text.toList.head? ≠ some '-' ∧ text.toList.getLast? ≠ some '-' ∧
      (text.toList.IsChain fun c d => c = '-' → d ≠ '-') ∧ text.length ≤ maxLength)
    ⟨fun ⟨chars, first, last, apart, length⟩ =>
        ⟨⟨List.all_eq_true.mp chars, first, last, apart⟩, length⟩,
      fun h => ⟨List.all_eq_true.mpr h.chars, h.first, h.last, h.apart, h.length⟩⟩

/-- A beginning is neat if it does not end with a dash. -/
theorem Neat.of_isPrefix {front cs : List Char} (h : Neat cs) (hfront : front <+: cs)
    (hlast : front.getLast? ≠ some '-') : Neat front where
  chars c hc := h.chars c (hfront.subset hc)
  first := by
    obtain ⟨rest, rfl⟩ := hfront
    intro hdash
    exact h.first (by rw [List.head?_append, hdash, Option.some_or])
  last := hlast
  apart := by
    obtain ⟨rest, rfl⟩ := hfront
    exact h.apart.left_of_append

/-- A neat beginning can be closed with a dash and plain characters. -/
theorem Neat.append {front back : List Char} (h : Neat front) (hfront : front ≠ [])
    (hplain : ∀ c ∈ back, isPlain c = true) (hback : back ≠ []) :
    Neat (front ++ '-' :: back) where
  chars := by
    rw [List.forall_mem_append, List.forall_mem_cons]
    exact ⟨h.chars, by decide, fun c hc => by rw [hplain c hc]; rfl⟩
  first := by
    rw [List.head?_append_of_ne_nil _ hfront]
    exact h.first
  last := by
    rw [List.getLast?_append_of_ne_nil _ (List.cons_ne_nil _ _), List.getLast?_cons_of_ne_nil hback]
    exact fun hdash => ne_dash_of_isPlain (hplain _ (List.mem_of_getLast? hdash)) rfl
  apart := by
    have hnone : ∀ c ∈ back, c ≠ '-' := fun c hc => ne_dash_of_isPlain (hplain c hc)
    have hapart : back.Pairwise fun c d => c = '-' → d ≠ '-' :=
      List.pairwise_of_forall_mem_list fun _ _ d hd _ => hnone d hd
    refine h.apart.append (hapart.isChain.cons fun c hc _ => hnone c (List.mem_of_mem_head? hc)) ?_
    exact fun c hc _ _ hdash => absurd (hdash ▸ hc) h.last

/-! ### Runs of other characters -/

theorem chars_collapse (inRun : Bool) (cs : List Char) :
    ∀ c ∈ collapse inRun cs, (isPlain c || c == '-') = true := by
  induction cs generalizing inRun with
  | nil => exact fun _ hc => absurd hc List.not_mem_nil
  | cons d rest ih =>
      unfold collapse
      split
      · rename_i hd
        exact List.forall_mem_cons.mpr ⟨by rw [hd]; rfl, ih false⟩
      split
      · exact ih true
      · exact List.forall_mem_cons.mpr ⟨by decide, ih true⟩

theorem head?_collapse (cs : List Char) : (collapse true cs).head? ≠ some '-' := by
  rw [← dropWhile_collapse true cs]
  intro hdash
  exact absurd (Text.head?_dropWhile hdash) (by decide)

/-- Of every run one dash is written. -/
theorem apart_collapse (inRun : Bool) (cs : List Char) :
    (collapse inRun cs).IsChain fun c d => c = '-' → d ≠ '-' := by
  induction cs generalizing inRun with
  | nil => exact .nil
  | cons d rest ih =>
      unfold collapse
      split
      · rename_i hd
        exact (ih false).cons fun _ _ hdash => absurd hdash (ne_dash_of_isPlain hd)
      split
      · exact ih true
      · refine (ih true).cons fun c hc _ hdash => ?_
        rw [hdash] at hc
        exact head?_collapse rest hc

/-- Where there is no run to be joined, nothing changes. -/
theorem collapse_eq_self {cs : List Char} (hchars : ∀ c ∈ cs, (isPlain c || c == '-') = true)
    (hapart : cs.IsChain fun c d => c = '-' → d ≠ '-') (inRun : Bool)
    (hfirst : inRun = true → cs.head? ≠ some '-') : collapse inRun cs = cs := by
  induction cs generalizing inRun with
  | nil => rfl
  | cons d rest ih =>
      obtain ⟨hd, hrest⟩ := List.forall_mem_cons.mp hchars
      obtain ⟨hnext, hlater⟩ := List.isChain_cons.mp hapart
      by_cases hplain : isPlain d = true
      · rw [collapse, if_pos hplain, ih hrest hlater false fun h => absurd h Bool.false_ne_true]
      · obtain rfl : d = '-' := by simpa [hplain] using hd
        have hout : inRun = false := by
          cases inRun with
          | false => rfl
          | true => exact absurd rfl (hfirst rfl)
        have hafter : rest.head? ≠ some '-' := fun hdash => hnext '-' hdash rfl rfl
        rw [collapse, if_neg hplain, hout, if_neg Bool.false_ne_true,
          ih hrest hlater true fun _ => hafter]

/-! ### What is left of a text -/

theorem neat_squeeze (cs : List Char) : Neat (squeeze cs) := by
  have htrims := Text.trims_stripBoth (· == '-') (collapse false cs)
  obtain ⟨before, after, hsplit, -, -⟩ := htrims.split
  have hchars := chars_collapse false cs
  have hapart := apart_collapse false cs
  rw [hsplit] at hchars hapart
  refine ⟨fun c hc => ?_, fun hdash => ?_, fun hdash => ?_, hapart.left_of_append.right_of_append⟩
  · exact hchars c (List.mem_append_left _ (List.mem_append_right _ hc))
  · exact absurd (htrims.first _ hdash) (by decide)
  · exact absurd (htrims.last _ hdash) (by decide)

theorem Neat.squeeze_eq_self {cs : List Char} (h : Neat cs) : squeeze cs = cs := by
  have htrims : Text.Trims (· == '-') cs cs :=
    ⟨⟨[], [], by simp, nofun, nofun⟩, fun c hc => by
      rw [beq_eq_false_iff_ne]
      exact fun hdash => h.first (hdash ▸ hc), fun c hc => by
      rw [beq_eq_false_iff_ne]
      exact fun hdash => h.last (hdash ▸ hc)⟩
  rw [squeeze, collapse_eq_self h.chars h.apart false nofun]
  exact htrims.stripBoth_self

/-! ### What is cut -/

/-- The digits of a digest. -/
def hexDigits : List Char := "0123456789abcdef".toList

theorem mem_sha256Hex (text : String) : ∀ c ∈ Digest.sha256Hex text, c ∈ hexDigits := by
  have hdigit : ∀ n < 16, Digest.hexDigit n ∈ hexDigits := by decide
  intro c hc
  obtain ⟨b, -, hb⟩ := List.mem_flatMap.mp hc
  have hbyte := b.toNat_lt
  rcases List.mem_pair.mp hb with rfl | rfl
  · exact hdigit _ (by omega)
  · exact hdigit _ (by omega)

theorem isPlain_of_mem_hexDigits {c : Char} (h : c ∈ hexDigits) : isPlain c = true := by
  have hall : hexDigits.all isPlain = true := by decide
  exact List.all_eq_true.mp hall c h

theorem dropLastDashes_isPrefix (cs : List Char) : dropLastDashes cs <+: cs :=
  List.rdropWhile_prefix _ cs

theorem getLast?_dropLastDashes (cs : List Char) : (dropLastDashes cs).getLast? ≠ some '-' := by
  rw [dropLastDashes, List.getLast?_reverse]
  intro hdash
  exact absurd (Text.head?_dropWhile hdash) (by decide)

/-- Dashes at the end are not missed by a beginning that does not end with one. -/
theorem prefix_dropLastDashes {front cs : List Char} (h : front <+: cs)
    (hlast : front.getLast? ≠ some '-') : front <+: dropLastDashes cs := by
  obtain ⟨rest, rfl⟩ := h
  rw [dropLastDashes, List.reverse_append, List.dropWhile_append]
  split
  · have hstop : ∀ c, front.reverse.head? = some c → (c == '-') = false := by
      intro c hc
      rw [List.head?_reverse] at hc
      rw [beq_eq_false_iff_ne]
      exact fun hdash => hlast (hdash ▸ hc)
    exact ⟨[], by rw [Text.dropWhile_of_head? hstop, List.reverse_reverse, List.append_nil]⟩
  · rw [List.reverse_append, List.reverse_reverse]
    exact List.prefix_append _ _

/-- What is kept of the characters of a name that is too long. -/
def kept (cs : List Char) : List Char := dropLastDashes (cs.take (maxLength - digestLength - 1))

theorem kept_isPrefix (cs : List Char) : kept cs <+: cs :=
  (dropLastDashes_isPrefix _).trans (List.take_prefix _ _)

theorem prefix_kept {front cs : List Char} (h : front <+: cs)
    (hlast : front.getLast? ≠ some '-') (hlength : front.length ≤ maxLength - digestLength - 1) :
    front <+: kept cs :=
  prefix_dropLastDashes (List.prefix_take_iff.mpr ⟨h, hlength⟩) hlast

/-- A name does not begin with a dash, so something of it is kept. -/
theorem kept_ne_nil {cs : List Char} (h : Neat cs) (hcs : cs ≠ []) : kept cs ≠ [] := by
  obtain ⟨c, rest, rfl⟩ := List.exists_cons_of_ne_nil hcs
  have hfirst : [c] <+: kept (c :: rest) :=
    prefix_kept ⟨rest, rfl⟩ (fun hdash => h.first hdash) (Nat.succ_le_of_lt (by decide))
  exact List.ne_nil_of_mem (hfirst.subset List.mem_cons_self)

theorem length_kept_le (cs : List Char) : (kept cs).length ≤ maxLength - digestLength - 1 :=
  (dropLastDashes_isPrefix _).length_le.trans (List.length_take_le _ _)

theorem neat_shorten (digest : List Char) {cs : List Char} (h : Neat cs)
    (hdigest : digestLength ≤ digest.length) (hplain : ∀ c ∈ digest, isPlain c = true) :
    Neat (shorten digest cs) ∧ (shorten digest cs).length ≤ maxLength := by
  unfold shorten
  split
  · rename_i hshort
    exact ⟨h, hshort⟩
  · rename_i hlong
    have hcs : cs ≠ [] := fun hnil => hlong (hnil ▸ Nat.zero_le _)
    have hkept : Neat (kept cs) := h.of_isPrefix (kept_isPrefix cs) (getLast?_dropLastDashes _)
    have hlength : (digest.take digestLength).length = digestLength :=
      List.length_take_of_le hdigest
    refine ⟨hkept.append (kept_ne_nil h hcs)
      (fun c hc => hplain c (List.mem_of_mem_take hc)) ?_, ?_⟩
    · exact List.ne_nil_of_length_eq_add_one hlength
    · have hfront := length_kept_le cs
      rw [List.length_append, List.length_cons, hlength]
      exact Nat.add_le_add_right hfront (digestLength + 1)

/-! ### Names -/

theorem toList_sanitize (text : String) : (sanitize text).toList =
    shorten (Digest.sha256Hex (Text.lowercase text)) (squeeze (Text.lowercase text).toList) :=
  String.toList_ofList

theorem isName_sanitize (text : String) : IsName (sanitize text) := by
  obtain ⟨hneat, hlength⟩ := neat_shorten (Digest.sha256Hex (Text.lowercase text))
    (neat_squeeze (Text.lowercase text).toList) (by rw [Digest.length_sha256Hex]; decide)
    fun c hc => isPlain_of_mem_hexDigits (mem_sha256Hex _ c hc)
  rw [← toList_sanitize] at hneat hlength
  exact ⟨hneat, hlength⟩

/-- Nothing but names is left alone. -/
theorem sanitize_eq_self_iff {text : String} : sanitize text = text ↔ IsName text := by
  constructor
  · intro h
    rw [← h]
    exact isName_sanitize text
  · intro h
    have hlower : Text.lowercase text = text := by
      rw [Text.lowercase, lowerFrom_label h.chars, String.ofList_toList]
    rw [← String.toList_inj, toList_sanitize, hlower, h.squeeze_eq_self]
    exact if_pos h.length

/-- Of what is too long a part is kept, and closed with digits of the digest of the whole. -/
theorem toList_sanitize_of_long {text : String}
    (h : maxLength < (squeeze (Text.lowercase text).toList).length) :
    (sanitize text).toList = kept (squeeze (Text.lowercase text).toList) ++
      '-' :: (Digest.sha256Hex (Text.lowercase text)).take digestLength := by
  rw [toList_sanitize]
  exact if_neg (Nat.not_le.mpr h)

/-! ### Names of the parts of a tunnel -/

/-- The words of the text begin with those of the name's kind. -/
theorem words_lowercase (kind : Kind) (ns name : String) : ∃ ws,
    words (Text.lowercase (kind.stem ++ ns ++ "-" ++ name)).toList =
      words kind.stem.toList ++ ws := by
  rw [Text.lowercase, String.toList_ofList, String.toList_append, String.toList_append,
    String.toList_append, List.append_assoc, List.append_assoc,
    lowerFrom_append (chars_stem kind), words_stem]
  exact ⟨_, rfl⟩

theorem join_isPrefix (vs ws : List (List Char)) : join vs <+: join (vs ++ ws) := by
  cases vs with
  | nil => exact List.nil_prefix
  | cons v vs =>
      rw [List.cons_append, join_cons, join_cons, List.flatMap_append, ← List.append_assoc]
      exact List.prefix_append _ _

/-- The word for a kind, without the dash that joins it to the namespace, is at the beginning. -/
theorem prefix_derive (kind : Kind) (ns name : String) :
    join (words kind.stem.toList) <+: (derive kind ns name).toList := by
  have hsqueezed : join (words kind.stem.toList) <+:
      squeeze (Text.lowercase (kind.stem ++ ns ++ "-" ++ name)).toList := by
    obtain ⟨ws, hws⟩ := words_lowercase kind ns name
    rw [squeeze_eq_join, hws]
    exact join_isPrefix _ ws
  rw [derive, toList_sanitize, shorten]
  split
  · exact hsqueezed
  · have hkept : join (words kind.stem.toList) <+:
        kept (squeeze (Text.lowercase (kind.stem ++ ns ++ "-" ++ name)).toList) := by
      -- the word ends with a letter and is shorter than what is kept
      refine prefix_kept hsqueezed ?_ ?_
      · cases kind <;> decide
      · cases kind <;> decide
    exact hkept.trans (List.prefix_append _ _)

theorem exists_word {kind : Kind} (hkind : kind ≠ .label) : ∃ word : String,
    kind.stem = word ++ "-" ∧ word.toList = join (words kind.stem.toList) := by
  cases kind with
  | label => exact absurd rfl hkind
  | machine => exact ⟨"frp", rfl, by decide⟩
  | app => exact ⟨"fly-tunnel", rfl, by decide⟩
  | deployment => exact ⟨"frpc", rfl, by decide⟩

/-- What a name is that is made of a text. -/
structure Reduces (text : String) : Prop where
  usable : IsName (sanitize text)
  unchanged : sanitize text = text ↔ IsName text
  again : sanitize (sanitize text) = sanitize text
  /-- A name that was cut has something of the text before the digits of the digest. -/
  cut : maxLength < (squeeze (Text.lowercase text).toList).length →
    ∃ front digits, (sanitize text).toList = front ++ '-' :: digits ∧
      front ≠ [] ∧ front <+: squeeze (Text.lowercase text).toList ∧
      digits <+: Digest.sha256Hex (Text.lowercase text) ∧ digits.length = 8 ∧
      ∀ c ∈ digits, c ∈ hexDigits

theorem reduces (text : String) : Reduces text where
  usable := isName_sanitize text
  unchanged := sanitize_eq_self_iff
  again := sanitize_eq_self_iff.mpr (isName_sanitize text)
  cut hlong := by
    refine ⟨_, _, toList_sanitize_of_long hlong, ?_, kept_isPrefix _, List.take_prefix _ _, ?_,
      fun c hc => mem_sha256Hex _ c (List.mem_of_mem_take hc)⟩
    · exact kept_ne_nil (neat_squeeze _) (List.ne_nil_of_length_pos (Nat.zero_lt_of_lt hlong))
    · exact List.length_take_of_le (by rw [Digest.length_sha256Hex]; decide)

/-- **Every text is reduced to a name, and no part of a tunnel is without one.** Names are short,
with single dashes inside only; a text stays as it is exactly if it is a name; what is cut ends with
digits of a digest. The name of a part begins with the word for its kind, whatever the Service is
called, so it is read back once it has been recorded. -/
theorem reduces_and_derives :
    (∀ text, Reduces text) ∧
      (∀ kind ≠ Kind.label, ∀ ns name, derive kind ns name ≠ "" ∧
        ∃ word : String, kind.stem = word ++ "-" ∧
          word.toList <+: (derive kind ns name).toList) ∧
      ∀ (annotations : Dict String String) (t : Tunnel) (ns name : String),
        t.appName = derive .app ns name → t.deploymentName = derive .deployment ns name →
        let read := TunnelRecord.ofAnnotations
          (annotations.merge (TunnelRecord.ofTunnel t).toAnnotations)
        read.flyApp = some t.appName ∧ read.frpcDeployment = some t.deploymentName := by
  refine ⟨reduces, fun kind hkind ns name => ⟨derive_ne_empty hkind ns name, ?_⟩, ?_⟩
  · obtain ⟨word, hstem, hword⟩ := exists_word hkind
    exact ⟨word, hstem, by rw [hword]; exact prefix_derive kind ns name⟩
  · intro annotations t ns name happ hdeployment
    have happ' : t.appName ≠ "" := happ.trans_ne (derive_ne_empty (by decide) ns name)
    have hdeployment' : t.deploymentName ≠ "" :=
      hdeployment.trans_ne (derive_ne_empty (by decide) ns name)
    intro read
    have hread : read = (TunnelRecord.ofTunnel t).nonEmpty :=
      TunnelRecord.ofAnnotations_merge annotations t
    simp only [hread, TunnelRecord.nonEmpty, TunnelRecord.ofTunnel, Option.filter_some,
      bne_iff_ne.mpr happ', bne_iff_ne.mpr hdeployment', if_true, and_self]

/-- Here the cut falls behind a dash, and a tunnel is recorded whose Service has no name that could
be used. -/
theorem reduces_and_derives_cut :
    let long := String.ofList (List.replicate 53 'A' ++ '_' :: List.replicate 20 'b')
    let t : Tunnel := ⟨derive .app "" "...", "m", "192.0.2.1", "ip", derive .deployment "" "..."⟩
    (∃ front digits, (sanitize long).toList = front ++ '-' :: digits ∧ front ≠ [] ∧
      front <+: squeeze (Text.lowercase long).toList ∧
      digits <+: Digest.sha256Hex (Text.lowercase long) ∧ digits.length = 8 ∧
      ∀ c ∈ digits, c ∈ hexDigits) ∧
    derive .machine "" "..." ≠ "" ∧
    (TunnelRecord.ofAnnotations
      (Dict.empty.merge (TunnelRecord.ofTunnel t).toAnnotations)).flyApp = some t.appName := by
  intro long t
  obtain ⟨hreduces, hderives, hread⟩ := reduces_and_derives
  exact ⟨(hreduces long).cut (by decide +kernel), (hderives .machine (by decide) "" "...").1,
    (hread Dict.empty t "" "..." rfl rfl).1⟩

end ServiceTunnel.Name
