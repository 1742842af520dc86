import Template.Settings.Layers

/-!
Options out of settings. The settings that options give are read back as these options. In layers over
them no setting is ever missing: what can be wrong with one is that it has no meaning, and the error
tells its name. An override goes over all texts, also over those that stand behind it.
-/

namespace Template

theorem Gobbling.ofName_name (g : Gobbling) : Gobbling.ofName g.name = g := by
  cases g <;> decide

namespace Settings

/-- The names of the settings that options are read from. -/
def names : List String := (ofOptions .standard).keys

section Reading

variable {α β : Type} {s : Settings}

theorem read_of_get? {convert : Setting → Option α} {name : String} {setting : Setting} {a : α}
    (hs : s.get? name = some setting) (hc : convert setting = some a) :
    s.read convert name = .ok a := by
  rw [read, hs]
  dsimp only
  rw [hc]

theorem ok_bind (a : α) (more : α → Except SettingsError β) : Except.ok a >>= more = more a := rfl

/-- The error tells the name of a setting that options are read from, and what is wrong with it: that
it is not there, or that it has no meaning. -/
def Blamed (s : Settings) (e : SettingsError) : Prop :=
  ∃ name ∈ names, (e = .missingSetting name ∧ s.get? name = none) ∨
    (e = .invalidSetting name ∧ s.contains name)

/-- Every error of the reading is about a setting. -/
def Blames (s : Settings) (reading : Except SettingsError α) : Prop :=
  ∀ e, reading = .error e → s.Blamed e

theorem Blames.read (convert : Setting → Option α) {name : String} (hn : name ∈ names) :
    s.Blames (s.read convert name) := by
  intro e h
  unfold Settings.read at h
  split at h
  next none =>
    cases h
    exact ⟨name, hn, .inl ⟨rfl, none⟩⟩
  next setting found =>
    split at h
    · cases h
      exact ⟨name, hn, .inr ⟨rfl, by rw [Entries.contains, found]; rfl⟩⟩
    · cases h

theorem Blames.bind {reading : Except SettingsError α} {more : α → Except SettingsError β}
    (h : s.Blames reading) (hm : ∀ a, s.Blames (more a)) : s.Blames (reading >>= more) := by
  intro e he
  cases reading with
  | error e' =>
      cases he
      exact h e rfl
  | ok a => exact hm a e he

theorem blames_options (s : Settings) : s.Blames s.options := by
  unfold options
  refine .bind (.read _ (by decide)) fun _ => .bind (.read _ (by decide)) fun _ => ?_
  refine .bind (.read _ (by decide)) fun _ => .bind (.read _ (by decide)) fun _ => ?_
  refine .bind (.read _ (by decide)) fun _ => .bind (.read _ (by decide)) fun _ => ?_
  exact .bind (.read _ (by decide)) fun _ => .bind (.read _ (by decide)) fun _ => nofun

end Reading

theorem count?_integer {n : Int} (h : 0 ≤ n) (bound : n < Setting.countBound) :
    Setting.count? (.integer n) = some n.toNat := by
  simp only [Setting.count?, h, bound, decide_true, Bool.and_self, if_true]

/-- Options pass their own check, and come out of it as they are. -/
theorem options_ofOptions (o : Options) (passes : o.maxPasses < Setting.countBound)
    (calls : o.maxCallDepth < Setting.countBound) (parses : o.maxParseDepth < Setting.countBound)
    (nesting : o.maxNesting < Setting.countBound) : (ofOptions o).options = .ok o := by
  have count (name : String) {n : Nat} (hn : n < Setting.countBound)
      (hs : (ofOptions o).get? name = some (.integer n)) :
      (ofOptions o).read Setting.count? name = .ok n := by
    have found := count?_integer (Int.natCast_nonneg n) (Int.ofNat_lt.2 hn)
    rw [Int.toNat_natCast] at found
    exact read_of_get? hs found
  have gobbling : (ofOptions o).read Setting.text? "space_gobbling" = .ok o.gobbling.name := by
    simp [read, ofOptions, Entries.get?, Setting.text?]
  have encoding : (ofOptions o).read Setting.text? "encoding" = .ok o.encoding := by
    simp [read, ofOptions, Entries.get?, Setting.text?]
  have redefines : (ofOptions o).read Setting.flag? "allow_macro_replace" =
      .ok o.allowRedefinition := by
    simp [read, ofOptions, Entries.get?, Setting.flag?]
  have tolerant : (ofOptions o).read Setting.flag? "tolerant_loader" = .ok o.tolerant := by
    simp [read, ofOptions, Entries.get?, Setting.flag?]
  have passes := count "max_loop_iterations" passes (by simp [ofOptions, Entries.get?])
  have calls := count "max_macro_depth" calls (by simp [ofOptions, Entries.get?])
  have parses := count "max_parse_depth" parses (by simp [ofOptions, Entries.get?])
  have nesting := count "max_nesting_depth" nesting (by simp [ofOptions, Entries.get?])
  simp only [options, ok_bind, gobbling, encoding, redefines, tolerant, passes, calls, parses,
    nesting, Gobbling.ofName_name]
  rfl

/-- All settings are there that options are read from. -/
def Complete (s : Settings) : Prop := ∀ name ∈ names, s.contains name

theorem complete_ofOptions (o : Options) : (ofOptions o).Complete := by
  intro name hn
  have same : (ofOptions o).keys = names := rfl
  simp only [← same, ofOptions, Entries.keys, List.map_cons, List.map_nil, List.mem_cons,
    List.not_mem_nil, or_false] at hn
  rcases hn with rfl | rfl | rfl | rfl | rfl | rfl | rfl | rfl <;> rfl

theorem get?_overlay {name : String} {setting : Setting} (hs : setting ≠ .table false)
    (s : Settings) (key : String) :
    (s.overlay name setting).get? key =
      if String.ofList (Text.lower name.toList) = key then some setting else s.get? key := by
  have put : (decide (setting = .table false) &&
      s.contains (String.ofList (Text.lower name.toList))) = false := by
    simp [hs]
  rw [overlay, if_neg (by rw [put]; simp), Entries.get?_put]

namespace Complete

variable {s : Settings}

theorem overlay (hs : s.Complete) (name : String) (setting : Setting) :
    (s.overlay name setting).Complete := by
  intro key hk
  unfold Settings.overlay
  dsimp only
  split
  · exact hs key hk
  · rw [Entries.contains, Entries.get?_put]
    split
    · rfl
    · exact hs key hk

theorem overlayAll (hs : s.Complete) (added : Settings) : (overlayAll added s).Complete := by
  unfold Settings.overlayAll
  induction added generalizing s with
  | nil => exact hs
  | cons entry added ih =>
      refine ih ?_
      dsimp only
      split
      · exact hs.overlay _ _
      · exact hs.overlay _ _

end Complete

/-- What a step over a layer may give: settings that are complete, or an error about the layer. -/
def Layered : Except SettingsError Settings → Prop
  | .ok s => s.Complete
  | .error e => ∀ name, e ≠ .missingSetting name

theorem layered_addFile {s : Settings} (hs : s.Complete) (layer : Layer) :
    Layered (s.addFile layer) := by
  unfold addFile
  split
  · split
    · exact hs.overlayAll _
    · exact nofun
  · split
    · exact nofun
    · exact hs
  · exact hs

theorem layered_addOverride {s : Settings} (hs : s.Complete) (layer : Layer) :
    Layered (s.addOverride layer) := by
  unfold addOverride
  split
  · split
    · exact hs.overlay _ _
    · exact nofun
  · exact hs

theorem layered_foldlM {add : Settings → Layer → Except SettingsError Settings}
    (step : ∀ s layer, s.Complete → Layered (add s layer)) {s : Settings} (hs : s.Complete)
    (layers : List Layer) : Layered (layers.foldlM add s) := by
  induction layers generalizing s with
  | nil => exact hs
  | cons layer layers ih =>
      have first := step s layer hs
      rw [List.foldlM_cons]
      cases h : add s layer with
      | error e =>
          rw [h] at first
          exact first
      | ok t =>
          rw [h] at first
          exact ih first

end Settings

namespace Options

open Settings

theorem ofLayers_nil : ofLayers [] = .ok standard :=
  options_ofOptions standard (by decide) (by decide) (by decide) (by decide)

/-- Whatever the layers are, no setting is missing. -/
theorem ofLayers_ne_missingSetting (layers : List Layer) (name : String) :
    ofLayers layers ≠ .error (.missingSetting name) := by
  have files := layered_foldlM (fun _ layer hs => layered_addFile hs layer)
    (complete_ofOptions standard) layers
  unfold ofLayers
  cases hf : layers.foldlM addFile (ofOptions standard) with
  | error e =>
      rw [hf] at files
      rintro ⟨⟩
      exact files name rfl
  | ok s =>
      rw [hf] at files
      have overrides := layered_foldlM (fun _ layer hs => layered_addOverride hs layer) files layers
      cases ho : layers.foldlM addOverride s with
      | error e =>
          rw [ho] at overrides
          simp only [bind, Except.bind, ho]
          rintro ⟨⟩
          exact overrides name rfl
      | ok t =>
          rw [ho] at overrides
          simp only [bind, Except.bind, ho]
          intro missing
          obtain ⟨key, hk, ⟨he, none⟩ | ⟨he, -⟩⟩ := blames_options t _ missing
          · have there := overrides key hk
            rw [Entries.contains, none] at there
            cases there
          · cases he

/-- A text or a file, which is no override. -/
def Layer.isFile : Layer → Bool
  | .override .. => false
  | _ => true

theorem addOverride_of_isFile {layers : List Layer} (h : ∀ layer ∈ layers, Layer.isFile layer)
    (s : Settings) : layers.foldlM addOverride s = .ok s := by
  induction layers with
  | nil => rfl
  | cons layer layers ih =>
      obtain ⟨file, files⟩ := List.forall_mem_cons.1 h
      have skipped : s.addOverride layer = .ok s := by
        cases layer <;> first | rfl | cases file
      rw [List.foldlM_cons, skipped]
      exact ih files

/-- It does not matter whether texts stand in front of an override or behind it. -/
theorem ofLayers_override_files (before : List Layer) (key : String) (setting : Setting)
    {files : List Layer} (h : ∀ layer ∈ files, Layer.isFile layer) :
    ofLayers (before ++ .override key setting :: files) =
      ofLayers (before ++ files ++ [Layer.override key setting]) := by
  have overrides (s : Settings) :
      (before ++ Layer.override key setting :: files).foldlM addOverride s =
        (before ++ (files ++ [Layer.override key setting])).foldlM addOverride s := by
    rw [List.foldlM_append, List.foldlM_append]
    refine bind_congr fun s => ?_
    rw [List.foldlM_append, addOverride_of_isFile h, List.foldlM_cons]
    change _ = [Layer.override key setting].foldlM addOverride s
    rw [List.foldlM_cons]
    exact bind_congr fun t => addOverride_of_isFile h t
  have texts (s : Settings) :
      (before ++ Layer.override key setting :: files).foldlM addFile s =
        (before ++ (files ++ [Layer.override key setting])).foldlM addFile s := by
    rw [List.foldlM_append, List.foldlM_append]
    refine bind_congr fun s => ?_
    rw [List.foldlM_append]
    change files.foldlM addFile s = _
    cases files.foldlM addFile s <;> rfl
  simp only [ofLayers, List.append_assoc, overrides, texts]

/-- What is read under the name of an override is what the last override of that name says. -/
theorem ofLayers_override {layers : List Layer} {key : String} {k : SettingKey} {setting : Setting}
    {o : Options} (hk : SettingKey.ofText? key = some k) (plain : k.goesDeeper = false)
    (filled : setting ≠ .table false)
    (h : ofLayers (layers ++ [Layer.override key setting]) = .ok o) :
    ∃ s : Settings, s.options = .ok o ∧
      s.get? (String.ofList (Text.lower k.name.toList)) = some setting := by
  unfold ofLayers at h
  cases hf : (layers ++ [Layer.override key setting]).foldlM addFile (ofOptions standard) with
  | error e =>
      rw [hf] at h
      cases h
  | ok s =>
      rw [hf] at h
      simp only [bind, Except.bind, List.foldlM_append] at h
      cases ho : layers.foldlM addOverride s with
      | error e =>
          rw [ho] at h
          cases h
      | ok t =>
          have put : [Layer.override key setting].foldlM addOverride t = .ok (t.assign k setting) := by
            rw [List.foldlM_cons, addOverride, hk]
            rfl
          rw [ho] at h
          dsimp only at h
          rw [put] at h
          refine ⟨t.assign k setting, h, ?_⟩
          rw [assign, plain, get?_overlay (by simpa using filled), if_pos rfl]
          rfl

end Options

end Template
