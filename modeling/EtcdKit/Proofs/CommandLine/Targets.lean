import EtcdKit.CommandLine.Program
import EtcdKit.Proofs.Arguments.Reading
import EtcdKit.Proofs.Target.Failure
/-!
# Targets — what a command line asks for

A target has a word on the command line, and with it a node, a way to run the daemon and switches, as
far as it says anything about these (`Asks`).  The target that is read of a word and its options is the
one that they ask for (`targetOf?_of_asks`, `asks_of_targetOf?`), and what is read of a command line
that asks for a text has a word of the grammar and no options but its own (`asked_of_follows`).
-/
namespace EtcdKit

namespace Target

/-- The word of a target on the command line. -/
def word : Target → String
  | .install _ => "install"
  | .goToolchain => "go"
  | .kubernetes => "kubernetes"
  | .rkt => "rkt-install"
  | .rktTrust => "rkt-trust"
  | .certificatePrograms => "cfssl-install"
  | .authority => "root-ca"
  | .authorityFiles => "root-ca-files"
  | .certificate _ => "cert"
  | .certificateCopy _ => "certs-copy"
  | .certificateFiles _ => "cert-files"
  | .dataDir _ => "data-dir"
  | .flags _ _ => "flags"
  | .command _ _ => "command"
  | .initialCluster => "initial-cluster"
  | .endpoints _ => "endpoints"
  | .health _ _ => "health"
  | .unit _ _ => "unit"
  | .control _ _ => "systemctl"
  | .operated | .operatedHealth => "operator"
  | .guide _ _ => "guide"

/-- How a target runs the daemon, if it says so. -/
def kind? : Target → Option UnitKind
  | .unit _ kind | .control _ kind | .guide kind _ => some kind
  | _ => none

/-- The switches of the command that a target belongs to, each with whether the target sets it. -/
def switches : Target → List (String × Bool)
  | .install origin => [("osx", origin == .mac), ("source", origin == .source)]
  | .flags _ style | .command _ style =>
    [("one-line", style.oneLine), ("skip-data-dir", style.skipDataDir),
      ("containerized", style.containerized)]
  | .endpoints withScheme => [("scheme", withScheme)]
  | .health _ containerized => [("containerized", containerized)]
  | .operated => [("health", false)]
  | .operatedHealth => [("health", true)]
  | .guide _ withOperator => [("operator", withOperator)]
  | _ => []

end Target

namespace CommandLine

open Arguments

/-- The word for how the daemon is run; one that is not given means the program itself. -/
def kindWord (g : Given) : String := (g.value? "kind").getD "systemd"

/-- A word and options ask for a target: they name it, its node and how it runs the daemon, and give
the switches that it sets. -/
structure Asks (word : String) (g : Given) (t : Target) : Prop where
  word : t.word = word
  node : t.nodeName? = g.value? "node"
  kind : ∀ k, t.kind? = some k → k.text = kindWord g
  switches : ∀ s ∈ t.switches, g.has s.1 = s.2

theorem ofText_eq_ok_iff {w : String} {k : UnitKind} : UnitKind.ofText w = .ok k ↔ k.text = w := by
  constructor
  · intro h
    unfold UnitKind.ofText at h
    split at h
    · rename_i found hfind
      cases h
      simpa using List.find?_some hfind
    · cases h
  · rintro rfl
    exact UnitKind.ofText_text k

theorem ofText_eq_error_iff {w : String} {e : Error} : UnitKind.ofText w = .error e ↔
    (∀ k : UnitKind, k.text ≠ w) ∧ e = .configuration (.unknownUnitKind w) := by
  constructor
  · intro h
    refine ⟨fun k hk => ?_, ?_⟩
    · rw [ofText_eq_ok_iff.2 hk] at h
      cases h
    · unfold UnitKind.ofText at h
      split at h
      · cases h
      · cases h
        rfl
  · rintro ⟨hno, rfl⟩
    cases h : UnitKind.ofText w with
    | ok k => exact absurd (ofText_eq_ok_iff.1 h) (hno k)
    | error e =>
      unfold UnitKind.ofText at h
      split at h
      · cases h
      · exact h.symm

theorem kindOf_eq (g : Given) : kindOf g = UnitKind.ofText (kindWord g) := rfl

/-- **The target that is asked for is the one that is read.** -/
theorem targetOf?_of_asks {word : String} {g : Given} {t : Target} (h : Asks word g t) :
    targetOf? word g = some (.ok t) := by
  obtain ⟨rfl, hnode, hkind, hswitches⟩ := h
  have hkindOf : ∀ k, t.kind? = some k → kindOf g = .ok k := fun k hk =>
    ofText_eq_ok_iff.2 (hkind k hk)
  have hstyle : ∀ style : FlagStyle, g.has "one-line" = style.oneLine →
      g.has "skip-data-dir" = style.skipDataDir → g.has "containerized" = style.containerized →
      style = styleOf g := by
    rintro ⟨_, _, _⟩ rfl rfl rfl
    rfl
  cases t
  all_goals simp only [Target.switches, List.forall_mem_cons] at hswitches
  case install origin =>
    have horigin : origin = sourceOf g := by
      unfold sourceOf
      rw [hswitches.1, hswitches.2.1]
      cases origin <;> rfl
    rw [horigin]
    rfl
  case certificate node | certificateCopy node | certificateFiles node | dataDir node =>
    obtain rfl : node = g.value? "node" := hnode
    rfl
  case flags node style | command node style =>
    obtain rfl : node = g.value? "node" := hnode
    obtain rfl := hstyle style hswitches.1 hswitches.2.1 hswitches.2.2.1
    rfl
  case endpoints withScheme =>
    obtain rfl : g.has "scheme" = withScheme := hswitches.1
    rfl
  case health node containerized =>
    obtain rfl : node = g.value? "node" := hnode
    obtain rfl : g.has "containerized" = containerized := hswitches.1
    rfl
  case unit node kind | control node kind =>
    obtain rfl : node = g.value? "node" := hnode
    change some ((kindOf g).map _) = _
    rw [hkindOf kind rfl]
    rfl
  case operated | operatedHealth =>
    change some (Except.ok (if g.has "health" then Target.operatedHealth else .operated)) = _
    rw [hswitches.1]
    rfl
  case guide kind withOperator =>
    obtain rfl : g.has "operator" = withOperator := hswitches.1
    change some ((kindOf g).map _) = _
    rw [hkindOf kind rfl]
    rfl
  all_goals rfl

/-! ## What the grammar accepts -/

/-- The options that every command has, and those of the program as a whole. -/
def generalOptions : List String := ["help", "profile", "verbose", "version"]

/-- The command that a word names in the grammar; an unknown one has no options. -/
def commandOf (word : String) : CommandSpec :=
  (renderSpec.commands.find? fun c => c.name == word).getD { name := word }

/-- The options of the command that a word names. -/
def ownOptions (word : String) : List String := (commandOf word).options.map (·.long)

/-- Arguments ask for a text by a word of the grammar, with no options but its own and the general
ones, and for one installation. -/
structure Asked (word : String) (g : Given) : Prop where
  commands : g.commands = [programName, renderSpec.name, word]
  known : word ∈ renderSpec.commands.map (·.name)
  only : ∀ name, name ∉ generalOptions → name ∉ ownOptions word → g.has name = false
  apart : word = "install" → g.has "osx" = true → g.has "source" = false

theorem map_eq_ok_iff {α β : Type} {x : Except Error α} {f : α → β} {b : β} :
    x.map f = .ok b ↔ ∃ a, x = .ok a ∧ f a = b := by
  cases x <;> simp [Except.map]

theorem word_of_targetOf? {word : String} {g : Given} {t : Target}
    (h : targetOf? word g = some (.ok t)) : t.word = word := by
  unfold targetOf? at h
  dsimp only at h
  split at h
  all_goals simp only [Option.some.injEq, Except.ok.injEq, map_eq_ok_iff, reduceCtorEq] at h
  case h_20 =>
    subst h
    split <;> rfl
  all_goals first
    | subst h; rfl
    | obtain ⟨k, -, rfl⟩ := h; rfl

theorem asks_of_targetOf? {word : String} {g : Given} {t : Target} (h : Asked word g)
    (ht : targetOf? word g = some (.ok t)) : Asks word g t := by
  -- a target without a node belongs to a command that takes none
  have hnode : "node" ∉ ownOptions word → none = g.value? "node" := fun hnot =>
    (value?_eq_none (h.only "node" (by decide) hnot)).symm
  have hapart := h.apart
  obtain rfl := word_of_targetOf? ht
  cases t
  all_goals simp only [Target.word] at hnode hapart ht
  case install origin =>
    cases ht
    refine ⟨rfl, hnode (by decide), (fun _ hk => by cases hk), ?_⟩
    cases hosx : g.has "osx" with
    | true => simp [Target.switches, sourceOf, hosx, hapart trivial hosx]
    | false => cases hs : g.has "source" <;> simp [Target.switches, sourceOf, hosx, hs]
  case certificate node | certificateCopy node | certificateFiles node | dataDir node =>
    cases ht
    exact ⟨rfl, rfl, (fun _ hk => by cases hk), by simp [Target.switches]⟩
  case flags node style | command node style | health node containerized =>
    cases ht
    exact ⟨rfl, rfl, (fun _ hk => by cases hk), by simp [Target.switches, styleOf]⟩
  case endpoints withScheme =>
    cases ht
    exact ⟨rfl, hnode (by decide), (fun _ hk => by cases hk), by simp [Target.switches]⟩
  case unit node kind | control node kind =>
    obtain ⟨k, hk, heq⟩ := map_eq_ok_iff.1 (Option.some.inj ht)
    cases heq
    refine ⟨rfl, rfl, fun _ hkind => ?_, by simp [Target.switches]⟩
    cases hkind
    exact ofText_eq_ok_iff.1 hk
  case guide kind withOperator =>
    obtain ⟨k, hk, heq⟩ := map_eq_ok_iff.1 (Option.some.inj ht)
    cases heq
    refine ⟨rfl, hnode (by decide), fun _ hkind => ?_, by simp [Target.switches]⟩
    cases hkind
    exact ofText_eq_ok_iff.1 hk
  case operated | operatedHealth =>
    change some (Except.ok (if g.has "health" then Target.operatedHealth else .operated)) = _ at ht
    refine ⟨rfl, hnode (by decide), (fun _ hk => by cases hk), ?_⟩
    cases hhealth : g.has "health"
    all_goals
      rw [hhealth] at ht
      cases ht
    simp [Target.switches, hhealth]
  all_goals exact ⟨rfl, hnode (by decide), (fun _ hk => by cases hk), by simp [Target.switches]⟩

/-- The words of the targets that say how the daemon is run. -/
def kindWords : List String := ["unit", "systemctl", "guide"]

theorem targetOf?_eq_error_iff {word : String} {g : Given} {e : Error} :
    targetOf? word g = some (.error e) ↔
      word ∈ kindWords ∧ (∀ k : UnitKind, k.text ≠ kindWord g) ∧
        e = .configuration (.unknownUnitKind (kindWord g)) := by
  have hkind : ∀ f : UnitKind → Target, some ((kindOf g).map f) = some (.error e) ↔
      (∀ k : UnitKind, k.text ≠ kindWord g) ∧
        e = .configuration (.unknownUnitKind (kindWord g)) := by
    intro f
    rw [← ofText_eq_error_iff, ← kindOf_eq]
    cases kindOf g <;> simp [Except.map]
  unfold targetOf?
  dsimp only
  split
  case h_18 | h_19 | h_21 => simp [hkind, kindWords]
  case h_22 => simp_all [kindWords]
  all_goals simp [kindWords]

theorem targetOf?_isSome (g : Given) :
    ∀ word ∈ renderSpec.commands.map (·.name), ∃ target, targetOf? word g = some target := by
  simp only [renderSpec, List.map_cons, List.map_nil, List.forall_mem_cons, List.not_mem_nil,
    false_implies, implies_true, and_true]
  and_intros
  all_goals exact ⟨_, rfl⟩

theorem commandOf_of_mem :
    ∀ spec ∈ renderSpec.commands, commandOf spec.name = spec ∧ spec.commands = [] := by
  simp only [renderSpec, List.forall_mem_cons, List.not_mem_nil, false_implies, implies_true,
    and_true]
  and_intros
  all_goals rfl

/-- **A command line that asks for a text** names one of the commands, and gives no other options. -/
theorem asked_of_follows {g : Given} (h : Follows sharedOptions programSpec g)
    (hrender : g.commands[1]? = some renderSpec.name) : ∃ word, Asked word g := by
  cases h with
  | last within complete => cases hrender
  | @inner _ command own below hown hmem hbelow =>
  have hname : some command.name = some renderSpec.name :=
    (commands_of_follows hbelow).symm.trans (by simpa [List.head?_eq_getElem?] using hrender)
  obtain rfl : command = renderSpec := by
    simp only [programSpec, List.mem_cons, List.not_mem_nil, or_false] at hmem
    rcases hmem with rfl | rfl | rfl
    · rfl
    · exact absurd hname (by decide)
    · exact absurd hname (by decide)
  cases hbelow with
  | last within complete => cases complete
  | @inner _ spec middle below hmiddle hmem hbelow =>
  obtain ⟨hspec, hleaf⟩ := commandOf_of_mem _ hmem
  cases hbelow with
  | inner _ hcommand _ =>
    rw [hleaf] at hcommand
    cases hcommand
  | @last _ given hgiven hcomplete =>
  have hshared : ∀ {name : String}, name ∈ (helpOption :: sharedOptions).map (·.long) →
      name ∈ generalOptions := fun h => List.mem_append_left ["version"] h
  -- so far only general options were given
  have hgeneral : ∀ name, name ∉ generalOptions →
      Given.has ⟨[], own.options ++ (middle.options ++ given.options), []⟩ name = given.has name := by
    intro name hnot
    have hfirst : own.has name = false :=
      Bool.eq_false_iff.2 fun hhas => hnot (mem_of_within hown hhas)
    have hsecond : middle.has name = false :=
      Bool.eq_false_iff.2 fun hhas => hnot (hshared (mem_of_within hmiddle hhas))
    simp only [Given.has, List.any_append] at hfirst hsecond ⊢
    rw [hfirst, hsecond, Bool.false_or, Bool.false_or]
  refine ⟨spec.name, rfl, List.mem_map_of_mem hmem, fun name hnot hnotOwn => ?_,
    fun hinstall hosx => ?_⟩
  · refine (hgeneral name hnot).trans (Bool.eq_false_iff.2 fun hhas => ?_)
    have hoption := mem_of_within hgiven hhas
    rw [List.map_append, List.mem_append] at hoption
    rcases hoption with hoption | hoption
    · exact hnot (hshared hoption)
    · rw [ownOptions, hspec] at hnotOwn
      exact hnotOwn hoption
  · rw [hinstall] at hspec
    cases hspec
    have hosx : given.has "osx" = true := (hgeneral "osx" (by decide)).symm.trans hosx
    have hempty : given.operands = [] ∧ given.has "source" = false := by
      simpa [isComplete, commandOf, renderSpec, hosx] using hcomplete
    exact (hgeneral "source" (by decide)).trans hempty.2

end CommandLine
end EtcdKit
