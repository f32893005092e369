import ProseChart.Proofs.Text.Case
import ProseChart.Proofs.Text.Cut
import ProseChart.Proofs.Text.Fold
import ProseChart.Proofs.Tool.Calls
import ProseChart.Server

/-!
# ProseChart.Proofs.Settings.Loading — which settings load, and that a server starts with them

The name of a tool set comes from an argument, from a variable or from nowhere, in this
order. Settings load when it is the name of a set up to the blanks around it and the case
of its letters. The names of the sets have no `k` in them, and `k` is the one ASCII letter
that a character outside ASCII turns into by itself; so the letters that are accepted are
ASCII letters. A server takes the lower-cased name and looks it up as it is, then enters
the tools of the set one by one. Whatever settings accept, it finds.

* `Text.fold_eq_iff` — texts that are lower-cased to a word without a `k`.
* `Settings.Chosen`, `Settings.chosen_iff` — where the name comes from.
* `Settings.Names`, `Settings.load_eq_ok_iff`, `Settings.load_eq_error_iff` — which names
  are accepted.
* `Settings.mem_toolSetNames_iff` — settings and server know the same names.
* `Server.assemble`, `Server.assemble_eq_ok_iff` — what a server makes of a name.
* `Settings.Loading`, `Settings.settings_match_server` — all of it.
-/

namespace ProseChart

/-! ## Words that are lower-cased to from ASCII alone -/

namespace Text

variable {t word : Text} {c d : Char}

theorem mem_fold (hc : c ∈ t) (hd : d ∈ foldChar c) : d ∈ fold t :=
  List.mem_flatMap_of_mem hc hd

/-- Without the two characters outside ASCII that it maps into ASCII, folding is the
lower-casing of ASCII letters. -/
theorem fold_eq_lowered (hkelvin : '\u212A' ∉ t) (hdotted : '\u0130' ∉ t) :
    fold t = lowered t := by
  induction t with
  | nil => rfl
  | cons c t ih =>
    rcases not_or.mp (mt List.mem_cons.mpr hkelvin) with ⟨hc, hkelvin'⟩
    rcases not_or.mp (mt List.mem_cons.mpr hdotted) with ⟨hc', hdotted'⟩
    have hfold : foldChar c = [c.toLower] := by
      rw [foldChar, if_neg (Ne.symm hc), if_neg (Ne.symm hc')]
    have hcons : fold (c :: t) = foldChar c ++ fold t := rfl
    rw [hcons, hfold, ih hkelvin' hdotted']
    rfl

/-- An ASCII word without a `k` is the lower-case form of itself in other letter case, and
of nothing else. -/
theorem fold_eq_iff (hword : ∀ c ∈ word, IsAscii c) (hk : 'k' ∉ word) :
    fold t = word ↔ lowered t = word := by
  constructor
  · rintro rfl
    -- the Kelvin sign would leave a `k`, the dotted capital its dot
    have hkelvin : '\u212A' ∉ t := fun hmem => hk (mem_fold hmem (by decide))
    have hdotted : '\u0130' ∉ t := by
      intro hmem
      have hdot : IsAscii '\u0307' := hword _ (mem_fold hmem (by decide))
      revert hdot
      decide
    exact (fold_eq_lowered hkelvin hdotted).symm
  · rintro rfl
    -- lower-casing ASCII letters leaves both characters as they are, outside ASCII
    have hascii : ∀ c ∈ t, IsAscii c.toLower := fun c hc => hword _ (List.mem_map_of_mem hc)
    have hkelvin : '\u212A' ∉ t := fun hmem => absurd (hascii _ hmem) (by decide)
    have hdotted : '\u0130' ∉ t := fun hmem => absurd (hascii _ hmem) (by decide)
    exact fold_eq_lowered hkelvin hdotted

theorem isAscii_of_isAlpha (h : c.isAlpha = true) : IsAscii c := by
  have hbounds := bounds_of_isAlpha h
  unfold IsAscii
  omega

theorem isBlank_of_isAlpha (h : c.isAlpha = true) : isBlank c = false := by
  have hbounds := bounds_of_isAlpha h
  by_contra hblank
  simp [isBlank] at hblank
  omega

end Text

/-! ## Names of tool sets -/

namespace ToolSet

variable {set : ToolSet} {name : Text}

/-- The names are lower-case words of ASCII letters, without a `k`. -/
theorem isLower_of_mem_name (set : ToolSet) : ∀ c ∈ set.name, c.isLower = true ∧ c ≠ 'k' := by
  cases set <;> simp [ToolSet.name]

theorem isAlpha_of_mem_name {c : Char} (h : c ∈ set.name) : c.isAlpha = true := by
  rw [Text.isAlpha_eq, (set.isLower_of_mem_name c h).1, Bool.or_true]

theorem isAscii_of_mem_name {c : Char} (h : c ∈ set.name) : Text.IsAscii c :=
  Text.isAscii_of_isAlpha (isAlpha_of_mem_name h)

theorem lowered_name (set : ToolSet) : set.name.lowered = set.name := by
  cases set <;> decide

/-- What is lower-cased to a name consists of letters. -/
theorem isAlpha_of_lowered_eq_name {t : Text} (h : t.lowered = set.name) :
    ∀ c ∈ t, c.isAlpha = true := by
  intro c hc
  have hmem : c.toLower ∈ set.name := h ▸ List.mem_map_of_mem hc
  rw [← Text.isAlpha_toLower]
  exact isAlpha_of_mem_name hmem

theorem ofName?_eq_some_iff : ofName? name = some set ↔ name = set.name := by
  constructor
  · intro h
    have hname := List.find?_some h
    exact (beq_iff_eq.mp hname).symm
  · rintro rfl
    exact ofName?_name set

theorem named_name (set : ToolSet) : named set.name = .ok set := by
  rw [named, ofName?_name]

theorem ofName?_eq_none_iff : ofName? name = none ↔ ∀ set : ToolSet, name ≠ set.name := by
  rw [Option.eq_none_iff_forall_ne_some]
  exact forall_congr' fun _ => not_congr ofName?_eq_some_iff

end ToolSet

/-! ## Settings -/

namespace Settings

variable {environment : Environment} {argument : Option Text} {v : Text} {set other : ToolSet}
  {settings : Settings} {fault : Fault}

/-- The variable that names the tool set. -/
def toolSetVariable : Text := "MERMAID_MCP_TOOL_SET"

/-- Where the name of the tool set comes from. -/
inductive Chosen (environment : Environment) : Option Text → Text → Prop
  /-- An argument that is not empty wins. -/
  | argument {v : Text} (hne : v ≠ []) : Chosen environment (some v) v
  /-- Without an argument, or with an empty one, the variable counts if it is set, even to
  the empty text. -/
  | variable {argument : Option Text} {v : Text} (hempty : argument = none ∨ argument = some [])
    (hset : environment.lookup toolSetVariable = some v) : Chosen environment argument v
  /-- Without an argument and a variable it is the full set. -/
  | default {argument : Option Text} (hempty : argument = none ∨ argument = some [])
    (hunset : environment.lookup toolSetVariable = none) : Chosen environment argument "full"

theorem chosenToolSet_of_empty (h : argument = none ∨ argument = some []) :
    chosenToolSet environment argument = (environment.lookup toolSetVariable).getD "full" := by
  rcases h with rfl | rfl
  · rfl
  · rfl

theorem chosen_iff : Chosen environment argument v ↔ v = chosenToolSet environment argument := by
  constructor
  · rintro (hne | ⟨hempty, hset⟩ | ⟨hempty, hunset⟩)
    · cases v with
      | nil => exact absurd rfl hne
      | cons c rest => rfl
    · rw [chosenToolSet_of_empty hempty, hset, Option.getD_some]
    · rw [chosenToolSet_of_empty hempty, hunset, Option.getD_none]
  · rintro rfl
    by_cases hempty : argument = none ∨ argument = some []
    · rw [chosenToolSet_of_empty hempty]
      cases hlookup : environment.lookup toolSetVariable with
      | none => exact .default hempty hlookup
      | some v => exact .variable hempty hlookup
    · rcases not_or.mp hempty with ⟨hnone, hnil⟩
      rcases Option.ne_none_iff_exists'.mp hnone with ⟨v, rfl⟩
      cases v with
      | nil => exact absurd rfl hnil
      | cons c rest => exact .argument (List.cons_ne_nil c rest)

/-- A text is the name of a tool set up to the case of ASCII letters, with blanks around
it. -/
def Names (v : Text) (set : ToolSet) : Prop :=
  ∃ before word after, v = before ++ (word ++ after) ∧ (∀ c ∈ before, Text.isBlank c = true) ∧
    (∀ c ∈ after, Text.isBlank c = true) ∧ Text.CaseVariant word set.name

theorem names_iff : Names v set ↔ v.trimBlank.lowered = set.name := by
  constructor
  · rintro ⟨before, word, after, rfl, hbefore, hafter, hcase⟩
    have hlowered : word.lowered = set.name := by
      rw [Text.caseVariant_iff.mp hcase, set.lowered_name]
    -- letters are not trimmed
    have hword : ∀ c ∈ word, Text.isBlank c = false := fun c hc =>
      Text.isBlank_of_isAlpha (ToolSet.isAlpha_of_lowered_eq_name hlowered c hc)
    rw [Text.trimBlank, Text.trim_surrounded hbefore hafter, Text.trim_of_forall hword, hlowered]
  · intro h
    rcases Text.exists_eq_append_trim Text.isBlank v with ⟨before, after, hv, hbefore, hafter⟩
    refine ⟨before, v.trimBlank, after, hv, hbefore, hafter, ?_⟩
    rw [Text.caseVariant_iff, h, set.lowered_name]

/-- The name is compared with a lower-case form of the text. Any of them will do. -/
theorem eq_name_iff_names {s : Text} (h : Text.LowerCase v.trimBlank s) :
    s = set.name ↔ Names v set := by
  have hascii : ∀ c ∈ set.name, Text.IsAscii c := fun _ => ToolSet.isAscii_of_mem_name
  have hk : 'k' ∉ set.name := fun hmem => (set.isLower_of_mem_name _ hmem).2 rfl
  rw [h.eq_iff hascii, Text.fold_eq_iff hascii hk, names_iff]

/-- Settings accept the names under which a server finds its tools. -/
theorem mem_toolSetNames_iff {name : Text} :
    name ∈ toolSetNames ↔ ∃ set : ToolSet, name = set.name := by
  constructor
  · intro h
    rcases List.mem_cons.mp h with hfull | h
    · exact ⟨.full, hfull⟩
    · exact ⟨.core, List.mem_singleton.mp h⟩
  · rintro ⟨set, rfl⟩
    cases set with
    | full => exact List.mem_cons_self
    | core => exact List.mem_cons_of_mem _ List.mem_cons_self

theorem fold_mem_toolSetNames_iff :
    Text.fold v.trimBlank ∈ toolSetNames ↔ ∃ set, Names v set := by
  rw [mem_toolSetNames_iff]
  exact exists_congr fun _ => eq_name_iff_names (Text.lowerCase_fold v.trimBlank)

/-- A text that names a set gives the name of the set. -/
theorem toolSetName_of_names (h : Names v set) : toolSetName v = .ok set.name := by
  have hname : Text.fold v.trimBlank = set.name :=
    (eq_name_iff_names (Text.lowerCase_fold v.trimBlank)).mpr h
  have hmem : toolSetNames.contains (Text.fold v.trimBlank) = true :=
    List.contains_iff_mem.mpr (fold_mem_toolSetNames_iff.mpr ⟨set, h⟩)
  rw [toolSetName, if_pos hmem, hname]

/-- A text that names no set is refused. -/
theorem toolSetName_of_not_names (h : ∀ set, ¬ Names v set) :
    toolSetName v = .error (.unexpectedToolSet v) := by
  have hmem : ¬ toolSetNames.contains (Text.fold v.trimBlank) = true := by
    rw [List.contains_iff_mem, fold_mem_toolSetNames_iff]
    exact not_exists.mpr h
  rw [toolSetName, if_neg hmem]

theorem toolSetOf_of_names (h : Names v set) : toolSetOf v = .ok set := by
  rw [toolSetOf, toolSetName_of_names h]
  exact ToolSet.named_name set

/-- No text is the name of two sets. -/
theorem Names.eq (h : Names v set) (h' : Names v other) : set = other := by
  have hset := toolSetOf_of_names h
  rw [toolSetOf_of_names h'] at hset
  exact (Except.ok.inj hset).symm

/-- The name of a set is a name of it. -/
theorem names_name (set : ToolSet) : Names set.name set := by
  refine ⟨[], set.name, [], ?_, by simp, by simp, Text.caseVariant_iff.mpr rfl⟩
  rw [List.nil_append, List.append_nil]

theorem load_of_names (hchosen : Chosen environment argument v) (h : Names v set) :
    load environment argument = .ok (withToolSet environment set) := by
  rw [load, ← chosen_iff.mp hchosen, toolSetOf_of_names h]
  rfl

theorem load_of_not_names (hchosen : Chosen environment argument v) (h : ∀ set, ¬ Names v set) :
    load environment argument = .error (.unexpectedToolSet v) := by
  rw [load, ← chosen_iff.mp hchosen, toolSetOf, toolSetName_of_not_names h]
  rfl

/-- Settings load exactly when the text names a set, and have this set then. -/
theorem load_eq_ok_iff (hchosen : Chosen environment argument v) :
    load environment argument = .ok settings ↔
      ∃ set, Names v set ∧ settings = withToolSet environment set := by
  by_cases h : ∃ set, Names v set
  · rcases h with ⟨set, hset⟩
    rw [load_of_names hchosen hset]
    constructor
    · intro heq
      exact ⟨set, hset, (Except.ok.inj heq).symm⟩
    · rintro ⟨other, hother, rfl⟩
      rw [hset.eq hother]
  · rw [load_of_not_names hchosen (not_exists.mp h)]
    exact iff_of_false nofun fun ⟨set, hset, _⟩ => h ⟨set, hset⟩

/-- Settings are refused exactly when the text names no set; the fault quotes it as it is
given. -/
theorem load_eq_error_iff (hchosen : Chosen environment argument v) :
    load environment argument = .error fault ↔
      (∀ set, ¬ Names v set) ∧ fault = .unexpectedToolSet v := by
  by_cases h : ∃ set, Names v set
  · rcases h with ⟨set, hset⟩
    rw [load_of_names hchosen hset]
    exact iff_of_false nofun fun hnone => hnone.1 set hset
  · rw [load_of_not_names hchosen (not_exists.mp h)]
    constructor
    · intro heq
      exact ⟨not_exists.mp h, (Except.error.inj heq).symm⟩
    · rintro ⟨-, rfl⟩
      rfl

end Settings

/-! ## The start of a server -/

namespace Server

variable {name version toolSet : Text} {server : Server}

/-- No set repeats a tool, so that every set makes a server. -/
theorem assemble_name (name version : Text) (set : ToolSet) :
    assemble name version set.name = .ok ⟨name, version, set.name, dispatcherOf set⟩ := by
  have hentered : Dispatcher.ofTools set.tools = .ok (dispatcherOf set) :=
    Dispatcher.ofTools_eq_ok (nodup_names set)
  unfold assemble
  rw [ToolSet.named_name]
  change (do let dispatcher ← Dispatcher.ofTools set.tools
             return (⟨name, version, set.name, dispatcher⟩ : Server)) = _
  rw [hentered]
  rfl

/-- A server is put together for the name of a set and for no other text. -/
theorem assemble_eq_ok_iff :
    assemble name version toolSet = .ok server ↔
      ∃ set : ToolSet, toolSet = set.name ∧
        server = ⟨name, version, set.name, dispatcherOf set⟩ := by
  by_cases h : ∃ set : ToolSet, toolSet = set.name
  · rcases h with ⟨set, rfl⟩
    rw [assemble_name]
    constructor
    · intro heq
      exact ⟨set, rfl, (Except.ok.inj heq).symm⟩
    · rintro ⟨other, hother, rfl⟩
      -- two sets with one name are the same set
      have hset := ToolSet.ofName?_name set
      rw [ToolSet.ofName?_eq_some_iff.mpr hother] at hset
      rw [Option.some.inj hset]
  · have hunknown : ToolSet.named toolSet = .error (.unknownToolSet toolSet) := by
      rw [ToolSet.named, ToolSet.ofName?_eq_none_iff.mpr (not_exists.mp h)]
    unfold assemble
    rw [hunknown]
    exact iff_of_false nofun fun ⟨set, hset, _⟩ => h ⟨set, hset⟩

theorem exists_assemble_eq_ok_iff :
    (∃ server, assemble name version toolSet = .ok server) ↔
      ∃ set : ToolSet, toolSet = set.name := by
  constructor
  · rintro ⟨server, hserver⟩
    rcases assemble_eq_ok_iff.mp hserver with ⟨set, hset, -⟩
    exact ⟨set, hset⟩
  · rintro ⟨set, hset⟩
    exact ⟨_, assemble_eq_ok_iff.mpr ⟨set, hset, rfl⟩⟩

/-- Whatever becomes of the connection, the server has announced itself before. -/
theorem head?_log_run (server : Server) (transport : Transport) :
    (server.run transport).log.head? = some server.starting := by
  cases transport with
  | connected protocol requests failure =>
    -- a failure of the connection comes after what was served
    cases failure with
    | none => rfl
    | some reason => rfl
  | ended => rfl
  | interrupted => rfl
  | broken reason => rfl

end Server

/-! ## From the environment to a server -/

namespace Settings

/-- How settings load when `v` is to name the tool set, and how a server starts. -/
structure Loading (environment : Environment) (argument : Option Text) (v : Text) : Prop where
  /-- The settings with a set load exactly when the text names this set. -/
  loaded : ∀ set,
    (∃ settings, load environment argument = .ok settings ∧ settings.toolSet = set) ↔ Names v set
  /-- The name of the set is the text as the check leaves it, trimmed and in lower case. All
  of the trimmed text is ASCII. -/
  normalized : ∀ settings, load environment argument = .ok settings →
    toolSetName v = .ok settings.toolSet.name ∧ settings.toolSet.name = v.trimBlank.lowered ∧
      ∀ c ∈ v.trimBlank, Text.IsAscii c
  /-- How letters outside ASCII are lower-cased makes no difference. -/
  anyCase : ∀ s, Text.LowerCase v.trimBlank s → ∀ set : ToolSet, s = set.name ↔ Names v set
  /-- The name of the set is an argument that gives the same set again in any environment. -/
  stable : ∀ settings, load environment argument = .ok settings → ∀ environment', ∃ settings',
    load environment' (some settings.toolSet.name) = .ok settings' ∧
      settings'.toolSet = settings.toolSet
  /-- A server starts with the lower-cased name exactly when settings load. -/
  starts : ∀ s, Text.LowerCase v.trimBlank s → ∀ name version,
    (∃ server, Server.assemble name version s = .ok server) ↔
      ∃ settings, load environment argument = .ok settings
  /-- The server of loaded settings starts under the name of their set, and announces all
  tools of the set before anything else, however the connection goes. -/
  served : ∀ settings, load environment argument = .ok settings →
    Server.assemble settings.serverName settings.serverVersion settings.toolSet.name =
        .ok (Server.ofSettings settings) ∧
      ∀ transport, ((Server.ofSettings settings).run transport).log.head? =
        some (.starting settings.serverName settings.toolSet.name
          (settings.toolSet.tools.map Tool.name))
  /-- A text that names no set is refused with a fault that quotes it. -/
  refused : ∀ fault, load environment argument = .error fault ↔
    (∀ set, ¬ Names v set) ∧ fault = .unexpectedToolSet v
  /-- The fault is a value that is not allowed, and its wording keeps the blanks of the
  text. -/
  report : (Fault.unexpectedToolSet v).kind = FaultClass.value ∧
    (Fault.unexpectedToolSet v).text =
      "Unknown tool set '" ++ v ++ "'. Expected one of: full, core"

variable {environment : Environment} {argument : Option Text} {v : Text}

theorem loading_of_chosen (hchosen : Chosen environment argument v) :
    Loading environment argument v where
  loaded := by
    intro set
    constructor
    · rintro ⟨settings, hload, rfl⟩
      rcases (load_eq_ok_iff hchosen).mp hload with ⟨set, hset, rfl⟩
      exact hset
    · intro hset
      exact ⟨withToolSet environment set, load_of_names hchosen hset, rfl⟩
  normalized := by
    intro settings hload
    rcases (load_eq_ok_iff hchosen).mp hload with ⟨set, hset, rfl⟩
    have hname : v.trimBlank.lowered = set.name := names_iff.mp hset
    refine ⟨toolSetName_of_names hset, hname.symm, ?_⟩
    intro c hc
    exact Text.isAscii_of_isAlpha (ToolSet.isAlpha_of_lowered_eq_name hname c hc)
  anyCase := fun _ hs _ => eq_name_iff_names hs
  stable := by
    intro settings _ environment'
    -- the name of a set is not empty, so it wins over any variable
    have hne : settings.toolSet.name ≠ [] := by
      cases settings.toolSet <;> simp [ToolSet.name]
    exact ⟨_, load_of_names (.argument hne) (names_name settings.toolSet), rfl⟩
  starts := by
    intro s hs name version
    have hname : (∃ set : ToolSet, s = set.name) ↔ ∃ set, Names v set :=
      exists_congr fun _ => eq_name_iff_names hs
    rw [Server.exists_assemble_eq_ok_iff, hname]
    constructor
    · rintro ⟨set, hset⟩
      exact ⟨_, load_of_names hchosen hset⟩
    · rintro ⟨settings, hload⟩
      rcases (load_eq_ok_iff hchosen).mp hload with ⟨set, hset, -⟩
      exact ⟨set, hset⟩
  served := by
    intro settings _
    refine ⟨Server.assemble_name _ _ settings.toolSet, ?_⟩
    intro transport
    rw [Server.head?_log_run]
    rfl
  refused := fun _ => load_eq_error_iff hchosen
  report := ⟨rfl, rfl⟩

/-- Settings and server agree on the tool sets. Settings accept the names with which a server
can be started, one text is chosen as the name, and the settings that load with it start a
server. -/
theorem settings_match_server :
    (∀ name serverName version, name ∈ toolSetNames ↔
      ∃ server, Server.assemble serverName version name = .ok server) ∧
    (∀ environment argument, ∃! v, Chosen environment argument v) ∧
    (∀ environment argument v, Chosen environment argument v →
      Loading environment argument v) := by
  refine ⟨?_, ?_, fun _ _ _ => loading_of_chosen⟩
  · intro name serverName version
    rw [mem_toolSetNames_iff, Server.exists_assemble_eq_ok_iff]
  · intro environment argument
    refine ⟨chosenToolSet environment argument, chosen_iff.mpr rfl, ?_⟩
    intro v hchosen
    exact chosen_iff.mp hchosen

/-- An empty argument leaves the choice to the variable, where a next-line control is blank
and the case does not matter. -/
theorem loading_blankArgument :
    Chosen [("MERMAID_MCP_TOOL_SET", " CoRe\u0085")] (some "") " CoRe\u0085" ∧
      Loading [("MERMAID_MCP_TOOL_SET", " CoRe\u0085")] (some "") " CoRe\u0085" := by
  have hchosen : Chosen [("MERMAID_MCP_TOOL_SET", " CoRe\u0085")] (some "") " CoRe\u0085" :=
    .variable (Or.inr rfl) rfl
  exact ⟨hchosen, settings_match_server.2.2 _ _ _ hchosen⟩

/-- The Kelvin sign is lower-cased to an ASCII letter, but no name has it. -/
example : load [] (some "ful\u212A") = .error (.unexpectedToolSet "ful\u212A") ∧
    (load [] (some "\tFULL ")).map Settings.toolSet = .ok .full := by decide

end Settings

end ProseChart
