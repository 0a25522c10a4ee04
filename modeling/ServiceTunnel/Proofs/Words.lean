import ServiceTunnel.Proofs.Derived

/-!
# ServiceTunnel.Proofs.Words

**Which Services share their names.** What is left of a text in a name are its words, the runs of
plain characters, joined by single dashes (`squeeze_eq_join`). The name of a Service is made of the
words of its namespace followed by those of its name, and does not tell where the former end. As
long as nothing is cut, two Services have the same names exactly if these words are the same
(`shares_names_iff`).
-/

namespace ServiceTunnel.Name

/-! ### Words -/

/-- The words of a text: the runs of plain characters. -/
def words (cs : List Char) : List (List Char) := (cs.splitOnP (!isPlain ·)).filter (· ≠ [])

/-- Words with single dashes between them. -/
def join (ws : List (List Char)) : List Char := ['-'].intercalate ws

theorem isPlain_dash : isPlain '-' = false := by decide

theorem ne_dash_of_isPlain {c : Char} (h : isPlain c = true) : c ≠ '-' := by
  intro hdash
  rw [hdash, isPlain_dash] at h
  cases h

theorem ne_nil_of_mem_words {cs w : List Char} (h : w ∈ words cs) : w ≠ [] := by
  simpa using (List.mem_filter.mp h).2

theorem isPlain_of_mem_words {cs w : List Char} (h : w ∈ words cs) :
    ∀ c ∈ w, isPlain c = true := by
  have hsplit : ∀ w ∈ cs.splitOnP (!isPlain ·), ∀ c ∈ w, isPlain c = true := by
    clear h w
    induction cs with
    | nil =>
        intro w hw c hc
        rw [List.splitOnP_nil, List.mem_singleton] at hw
        rw [hw] at hc
        exact absurd hc List.not_mem_nil
    | cons d cs ih =>
        obtain ⟨first, rest, hsplit⟩ := List.exists_cons_of_ne_nil
          (List.splitOnP_ne_nil (!isPlain ·) cs)
        rw [List.splitOnP_cons_eq_if_modifyHead]
        rw [hsplit, List.forall_mem_cons] at ih
        rw [hsplit]
        split
        · exact List.forall_mem_cons.mpr ⟨fun _ hc => absurd hc List.not_mem_nil,
            List.forall_mem_cons.mpr ih⟩
        · rename_i hd
          refine List.forall_mem_cons.mpr ⟨List.forall_mem_cons.mpr ⟨?_, ih.1⟩, ih.2⟩
          simpa using hd
  exact hsplit w (List.mem_filter.mp h).1

/-- A character that is not plain ends a word, and belongs to none. -/
theorem words_append {c : Char} (h : isPlain c = false) (a b : List Char) :
    words (a ++ c :: b) = words a ++ words b := by
  rw [words, List.splitOnP_append_cons _ _ (by rw [h]; rfl), List.filter_append]
  rfl

theorem join_cons (w : List Char) (ws : List (List Char)) :
    join (w :: ws) = w ++ ws.flatMap ('-' :: ·) := by
  induction ws generalizing w with
  | nil => simp [join]
  | cons v ws ih =>
      rw [join, List.intercalate_cons_cons, ← join, ih, List.flatMap_cons]
      simp

/-! ### What is left of a text -/

theorem dropWhile_collapse (inRun : Bool) (cs : List Char) :
    (collapse inRun cs).dropWhile (· == '-') = collapse true cs := by
  induction cs generalizing inRun with
  | nil => rfl
  | cons c rest ih =>
      by_cases hc : isPlain c = true
      · simp only [collapse, if_pos hc]
        exact List.dropWhile_cons_of_neg (by simp [ne_dash_of_isPlain hc])
      · cases inRun with
        | true => simp only [collapse, if_neg hc, if_true, ih]
        | false =>
            simp only [collapse, if_neg hc, Bool.false_eq_true, if_false]
            exact (List.dropWhile_cons_of_pos (by decide)).trans (ih true)

theorem dropLastDashes_cons {c : Char} (hc : c ≠ '-') (cs : List Char) :
    dropLastDashes (c :: cs) = c :: dropLastDashes cs := by
  rw [dropLastDashes, dropLastDashes, List.reverse_cons, List.dropWhile_append]
  split
  · rename_i hempty
    rw [List.isEmpty_iff.mp hempty, List.dropWhile_cons_of_neg (by simp [hc])]
    rfl
  · rw [List.reverse_append]
    rfl

theorem dropLastDashes_dash (cs : List Char) :
    dropLastDashes ('-' :: cs) =
      if dropLastDashes cs = [] then [] else '-' :: dropLastDashes cs := by
  simp only [dropLastDashes, List.reverse_cons, List.dropWhile_append, List.reverse_eq_nil_iff,
    List.isEmpty_iff]
  split
  · rfl
  · rw [List.reverse_append]
    rfl

theorem join_eq_nil {ws : List (List Char)} (h : ∀ w ∈ ws, w ≠ []) : join ws = [] ↔ ws = [] := by
  cases ws with
  | nil => exact iff_of_true rfl rfl
  | cons w ws =>
      have hw := h w List.mem_cons_self
      simp [join_cons, hw]

theorem flatMap_dash {ws : List (List Char)} (h : ∀ w ∈ ws, w ≠ []) :
    ws.flatMap ('-' :: ·) = if join ws = [] then [] else '-' :: join ws := by
  rw [if_congr (join_eq_nil h) rfl rfl]
  cases ws with
  | nil => rfl
  | cons w ws => rw [if_neg (List.cons_ne_nil _ _), join_cons, List.flatMap_cons, List.cons_append]

/-- Before the dashes at the ends go, a text has its words with dashes between them, after the
beginning of its first word. -/
theorem dropLastDashes_collapse {cs first : List Char} {rest : List (List Char)}
    (h : cs.splitOnP (!isPlain ·) = first :: rest) :
    dropLastDashes (collapse false cs) = first ++ (rest.filter (· ≠ [])).flatMap ('-' :: ·) ∧
      dropLastDashes (collapse true cs) = join (words cs) := by
  induction cs generalizing first rest with
  | nil =>
      cases h
      exact ⟨rfl, rfl⟩
  | cons c cs ih =>
      obtain ⟨first', rest', hsplit⟩ := List.exists_cons_of_ne_nil
        (List.splitOnP_ne_nil (!isPlain ·) cs)
      obtain ⟨hfalse, htrue⟩ := ih hsplit
      rw [List.splitOnP_cons_eq_if_modifyHead, hsplit] at h
      by_cases hc : isPlain c = true
      · -- the first word goes on
        simp only [hc, Bool.not_true, Bool.false_eq_true, if_false, List.modifyHead_cons,
          List.cons.injEq] at h
        obtain ⟨rfl, rfl⟩ := h
        have hwords : words (c :: cs) = (c :: first') :: rest'.filter (· ≠ []) := by
          rw [words, List.splitOnP_cons_eq_if_modifyHead, hsplit]
          simp [hc]
        simp only [collapse, if_pos hc, dropLastDashes_cons (ne_dash_of_isPlain hc), hfalse, hwords,
          join_cons, List.cons_append, and_self]
      · -- a word has ended, or there was none
        simp only [hc, Bool.not_false, if_true, List.cons.injEq] at h
        obtain ⟨rfl, rfl⟩ := h
        have hwords : words (c :: cs) = words cs := words_append (Bool.not_eq_true _ ▸ hc) [] cs
        have hrest : (first' :: rest').filter (· ≠ []) = words cs := by rw [words, hsplit]
        simp only [collapse, if_neg hc, Bool.false_eq_true, if_false, if_true,
          dropLastDashes_dash, htrue, hwords, hrest, List.nil_append, and_true]
        exact (flatMap_dash fun w hw => ne_nil_of_mem_words hw).symm

/-- A name has the words of the text, with single dashes between them. -/
theorem squeeze_eq_join (cs : List Char) : squeeze cs = join (words cs) := by
  obtain ⟨first, rest, hsplit⟩ := List.exists_cons_of_ne_nil
    (List.splitOnP_ne_nil (!isPlain ·) cs)
  rw [← (dropLastDashes_collapse hsplit).2, ← dropWhile_collapse false cs]
  rfl

/-- The words can be told from the name. -/
theorem join_words_inj {a b : List Char} : join (words a) = join (words b) ↔ words a = words b := by
  have hdash : ∀ cs : List Char, ∀ w ∈ words cs, '-' ∉ w := fun cs w hw hmem =>
    ne_dash_of_isPlain (isPlain_of_mem_words hw _ hmem) rfl
  refine ⟨fun h => ?_, congrArg join⟩
  by_cases ha : words a = []
  · have hb : join (words b) = [] := by rw [← h, ha]; rfl
    rw [ha, (join_eq_nil fun w hw => ne_nil_of_mem_words hw).mp hb]
  · have hb : words b ≠ [] := by
      intro hb
      refine ha ((join_eq_nil fun w hw => ne_nil_of_mem_words hw).mp ?_)
      rw [h, hb]
      rfl
    rw [← List.splitOn_intercalate '-' (hdash a) ha, ← List.splitOn_intercalate '-' (hdash b) hb]
    exact congrArg (List.splitOn '-') h

/-! ### Names of Services -/

/-- A label as it is asked for in the names of objects: lower-case letters, digits and dashes, with
a letter or a digit at both ends, and at most 63 characters. -/
structure IsLabel (s : String) : Prop where
  chars : ∀ c ∈ s.toList, (isPlain c || c == '-') = true
  first : s.toList.head?.any isPlain = true
  last : s.toList.getLast?.any isPlain = true
  length : s.length ≤ 63

instance (s : String) : Decidable (IsLabel s) :=
  decidable_of_iff ((s.toList.all fun c => isPlain c || c == '-') = true ∧
      s.toList.head?.any isPlain = true ∧ s.toList.getLast?.any isPlain = true ∧ s.length ≤ 63)
    ⟨fun ⟨chars, first, last, length⟩ => ⟨List.all_eq_true.mp chars, first, last, length⟩,
      fun h => ⟨List.all_eq_true.mpr h.chars, h.first, h.last, h.length⟩⟩

/-- The name of a kind for the Service `ns/name` is not cut. -/
def Fits (kind : Kind) (ns name : String) : Prop :=
  (squeeze (Text.lowercase (kind.stem ++ ns ++ "-" ++ name)).toList).length ≤ maxLength

instance (kind : Kind) (ns name : String) : Decidable (Fits kind ns name) :=
  inferInstanceAs (Decidable (_ ≤ _))

theorem toNat_lt_of_label {c : Char} (h : (isPlain c || c == '-') = true) : c.toNat < 128 := by
  simp only [isPlain, Char.isDigit, Bool.or_eq_true, Bool.and_eq_true, decide_eq_true_eq,
    beq_iff_eq, Char.le_def, ge_iff_le, UInt32.le_iff_toNat_le] at h
  obtain (⟨-, hz⟩ | ⟨-, hnine⟩) | hdash := h
  · exact Nat.lt_of_le_of_lt hz (by decide)
  · exact Nat.lt_of_le_of_lt hnine (by decide)
  · rw [hdash]
    decide

/-- Characters of labels have no other lower-case form, whatever comes after them. -/
theorem lowerFrom_append {cs : List Char} (h : ∀ c ∈ cs, (isPlain c || c == '-') = true)
    (before rest : List Char) :
    Text.lowerFrom before (cs ++ rest) = cs ++ Text.lowerFrom (cs.reverse ++ before) rest := by
  have hcodes : ∀ n < 128, (isPlain (Char.ofNat n) || Char.ofNat n == '-') = true →
      Char.ofNat n ≠ 'Σ' ∧ Text.lowerChar (Char.ofNat n) = [Char.ofNat n] := by decide +kernel
  induction cs generalizing before with
  | nil => rfl
  | cons c cs ih =>
      obtain ⟨hc, hrest⟩ := List.forall_mem_cons.mp h
      obtain ⟨hsigma, hlower⟩ := hcodes c.toNat (toNat_lt_of_label hc)
        (by rw [Char.ofNat_toNat]; exact hc)
      rw [Char.ofNat_toNat] at hsigma hlower
      rw [List.cons_append, Text.lowerFrom, if_neg hsigma, hlower, ih hrest, List.reverse_cons,
        List.append_assoc]
      rfl

theorem lowerFrom_label {cs : List Char} (h : ∀ c ∈ cs, (isPlain c || c == '-') = true)
    (before : List Char) : Text.lowerFrom before cs = cs := by
  have happend := lowerFrom_append h before []
  rwa [Text.lowerFrom, List.append_nil] at happend

/-- The beginning of a name is a label as well. -/
theorem chars_stem (kind : Kind) :
    ∀ c ∈ kind.stem.toList, (isPlain c || c == '-') = true := by
  cases kind <;> exact List.all_eq_true.mp (by decide)

theorem words_stem (kind : Kind) (cs : List Char) :
    words (kind.stem.toList ++ cs) = words kind.stem.toList ++ words cs := by
  have hdash : ∀ stem : List Char,
      words ((stem ++ ['-']) ++ cs) = words (stem ++ ['-']) ++ words cs := by
    intro stem
    rw [List.append_assoc, List.singleton_append, words_append isPlain_dash,
      words_append isPlain_dash]
    exact congrArg (· ++ words cs) (List.append_nil _).symm
  cases kind with
  | label => rfl
  | machine => exact hdash ['f', 'r', 'p']
  | app => exact hdash "fly-tunnel".toList
  | deployment => exact hdash ['f', 'r', 'p', 'c']

/-- The words of a namespace, followed by those of a name. -/
def wordsOf (ns name : String) : List (List Char) := words ns.toList ++ words name.toList

section Labels

variable {kind : Kind} {ns name ns' name' : String}

theorem lowercase_text (kind : Kind) (hns : IsLabel ns) (hname : IsLabel name) :
    (Text.lowercase (kind.stem ++ ns ++ "-" ++ name)).toList =
      kind.stem.toList ++ (ns.toList ++ '-' :: name.toList) := by
  rw [Text.lowercase, String.toList_ofList, lowerFrom_label]
  · simp only [String.toList_append, List.append_assoc]
    rfl
  · have hdash : ("-".toList.all fun c => isPlain c || c == '-') = true := by decide
    simp only [String.toList_append, List.forall_mem_append]
    exact ⟨⟨⟨chars_stem kind, hns.chars⟩, List.all_eq_true.mp hdash⟩, hname.chars⟩

/-- A name that is not cut is made of the words of its text. -/
theorem derive_eq_join (hns : IsLabel ns) (hname : IsLabel name) (hfits : Fits kind ns name) :
    derive kind ns name =
      String.ofList (join (words (kind.stem.toList ++ (ns.toList ++ '-' :: name.toList)))) := by
  have hshort : ∀ digest, shorten digest (squeeze (Text.lowercase (kind.stem ++ ns ++ "-" ++
      name)).toList) = squeeze (Text.lowercase (kind.stem ++ ns ++ "-" ++ name)).toList :=
    fun _ => if_pos hfits
  rw [derive, sanitize, hshort, lowercase_text kind hns hname, squeeze_eq_join]

theorem words_text (kind : Kind) (ns name : String) :
    words (kind.stem.toList ++ (ns.toList ++ '-' :: name.toList)) =
      words kind.stem.toList ++ wordsOf ns name := by
  rw [words_stem, words_append isPlain_dash, wordsOf]

/-- Names that are not cut are the same exactly for the same words. -/
theorem derive_eq_iff (hns : IsLabel ns) (hname : IsLabel name) (hns' : IsLabel ns')
    (hname' : IsLabel name') (hfits : Fits kind ns name) (hfits' : Fits kind ns' name') :
    derive kind ns name = derive kind ns' name' ↔ wordsOf ns name = wordsOf ns' name' := by
  rw [derive_eq_join hns hname hfits, derive_eq_join hns' hname' hfits', String.ofList_inj,
    join_words_inj, words_text, words_text, List.append_cancel_left_eq]

/-- **Two Services share their application, their Deployment and their ConfigMap exactly if the
words of namespace and name are the same**, wherever the former end and the latter begin. -/
theorem shares_names_iff (hns : IsLabel ns) (hname : IsLabel name) (hns' : IsLabel ns')
    (hname' : IsLabel name') (happ : Fits .app ns name) (happ' : Fits .app ns' name')
    (hdeployment : Fits .deployment ns name) (hdeployment' : Fits .deployment ns' name') :
    (derive .app ns name = derive .app ns' name' ↔ wordsOf ns name = wordsOf ns' name') ∧
      (derive .deployment ns name = derive .deployment ns' name' ↔
        wordsOf ns name = wordsOf ns' name') ∧
      (Workload.configMapName (derive .deployment ns name) =
          Workload.configMapName (derive .deployment ns' name') ↔
        wordsOf ns name = wordsOf ns' name') := by
  have hiff := derive_eq_iff hns hname hns' hname' hdeployment hdeployment'
  exact ⟨derive_eq_iff hns hname hns' hname' happ happ', hiff,
    (String.append_left_inj _).trans hiff⟩

/-- Two Services of one name in two namespaces have names of their own. -/
theorem shares_names_iff_team :
    derive .app "team-a" "api" ≠ derive .app "team-b" "api" ∧
      derive .deployment "team-a" "api" ≠ derive .deployment "team-b" "api" := by
  have hwords : wordsOf "team-a" "api" ≠ wordsOf "team-b" "api" := by decide
  obtain ⟨happ, hdeployment, -⟩ := shares_names_iff (by decide : IsLabel "team-a")
    (by decide : IsLabel "api") (by decide : IsLabel "team-b") (by decide : IsLabel "api")
    (by decide +kernel) (by decide +kernel) (by decide +kernel) (by decide +kernel)
  exact ⟨mt happ.mp hwords, mt hdeployment.mp hwords⟩

/-- Two Services may share everything: a dash that ends the namespace of one stands in the name of
the other. -/
theorem distinct_services_share_names :
    (("a-b", "c") : String × String) ≠ ("a", "b-c") ∧
      (IsLabel "a-b" ∧ IsLabel "c" ∧ IsLabel "a" ∧ IsLabel "b-c") ∧
      (Fits .app "a-b" "c" ∧ Fits .app "a" "b-c" ∧ Fits .deployment "a-b" "c" ∧
        Fits .deployment "a" "b-c") ∧
      derive .app "a-b" "c" = derive .app "a" "b-c" ∧
      derive .deployment "a-b" "c" = derive .deployment "a" "b-c" := by
  decide +kernel

end Labels

end ServiceTunnel.Name
