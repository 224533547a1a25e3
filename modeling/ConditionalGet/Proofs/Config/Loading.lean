import ConditionalGet.Config.Load
import ConditionalGet.Proofs.Config.Settings
import ConditionalGet.Proofs.Files.Obstacles

/-!
# Which file the configuration is

Of the files that may hold the configuration the first one that can be read is taken, and those
behind it are not looked at (`Sought`). What its text comes to is `Follows`: the document over the
defaults if it is accepted, and the defaults with one warning if it is not. `load_overlay` says both
of every tree of files, whatever stands in the way of reading them.
-/

set_option autoImplicit false

namespace ConditionalGet

open Program ConditionalGet.Tree

/-- Where nothing is, or a directory, or a file that is no text. -/
def Tree.NoText (t : Tree) (path : String) : Prop :=
  t.Missing path ∨ ∃ place only node, t.locate path = .ok (place, only) ∧ t.node? place = some node ∧
    (node = .directory ∨ ∃ bytes, node = .file bytes ∧ Text.decode? bytes = none)

theorem Tree.NoText.not_readable {b : Obstacles} {t : Tree} {path : String} (h : t.NoText path)
    (text : String) : ¬b.Readable t path text := by
  rintro ⟨-, hholds⟩
  rcases h with hmissing | ⟨place, only, node, hl, hn, hnode⟩
  · have hread := read_eq_ok_iff.2 hholds
    rw [read_eq_notFound_iff.2 hmissing] at hread
    cases hread
  · obtain ⟨place', bytes, hl', hn', hd⟩ := hholds
    obtain ⟨rfl, -⟩ := Prod.mk.inj (Except.ok.inj (hl.symm.trans hl'))
    obtain rfl := Option.some.inj (hn.symm.trans hn')
    rcases hnode with hnode | ⟨bytes', hnode, hnone⟩
    · cases hnode
    · cases hnode
      rw [hnone] at hd
      cases hd

namespace Config

variable {b : Obstacles} {env : Environment} {t : Tree}

/-! ## Finding a file -/

/-- Which of some files are looked at, and what is found: the first text that can be read. -/
inductive Sought (b : Obstacles) (t : Tree) : List String → List String → Option Found → Prop
  | nothing : Sought b t [] [] none
  | here {path text : String} {rest : List String} :
      b.Readable t path text → Sought b t (path :: rest) [path] (some ⟨path, text⟩)
  | skipped {path : String} {rest asked : List String} {found : Option Found} :
      (∀ text, ¬b.Readable t path text) → Sought b t rest asked found →
        Sought b t (path :: rest) (path :: asked) found

namespace Sought

variable {path text : String} {paths rest asked : List String} {found : Option Found}

theorem of_readable (hr : b.Readable t path text) (h : Sought b t (path :: rest) asked found) :
    asked = [path] ∧ found = some ⟨path, text⟩ := by
  cases h with
  | here hr' => exact ⟨rfl, by rw [hr.unique hr']⟩
  | skipped hskipped _ => exact absurd hr (hskipped text)

theorem of_not_readable (hr : ∀ text, ¬b.Readable t path text)
    (h : Sought b t (path :: rest) asked found) :
    ∃ asked', asked = path :: asked' ∧ Sought b t rest asked' found := by
  cases h with
  | here hr' => exact absurd hr' (hr _)
  | skipped _ h => exact ⟨_, rfl, h⟩

theorem eq_none (hr : ∀ path ∈ paths, ∀ text, ¬b.Readable t path text)
    (h : Sought b t paths asked found) : found = none := by
  induction h with
  | nothing => rfl
  | here hr' => exact absurd hr' (hr _ List.mem_cons_self _)
  | skipped _ _ ih => exact ih fun path hp => hr path (List.mem_cons_of_mem _ hp)

end Sought

/-- The files are looked at one after another, and nothing else is asked. -/
theorem runs_readFirst {paths : List String} {found : Option Found}
    {turns : List (Turn Files.interface)} {s' : Tree × List (Turn Files.interface)}
    (h : Runs (logged b.hindered) (readFirst paths) (t, turns) found s') :
    s'.1 = t ∧ ∃ asked more, Sought b t paths asked found ∧ s'.2 = turns ++ more ∧
      more.map Turn.question = asked.map Files.Operation.read := by
  induction paths generalizing turns with
  | nil =>
    obtain ⟨rfl, rfl⟩ := runs_pure_iff'.1 h
    exact ⟨rfl, [], [], .nothing, (List.append_nil _).symm, rfl⟩
  | cons path rest ih =>
    obtain ⟨r, ⟨t₁, turns₁⟩, ⟨hstep, hturns⟩, h⟩ := runs_ask_iff.1 h
    obtain ⟨rfl, hreadable, -⟩ := Obstacles.hindered_read hstep
    cases r with
    | ok text =>
      obtain ⟨rfl, rfl⟩ := runs_pure_iff'.1 h
      exact ⟨rfl, [path], _, .here ((hreadable text).2 rfl), hturns, rfl⟩
    | error e =>
      obtain ⟨htree, asked, more, hsought, hmore, hasked⟩ := ih h
      refine ⟨htree, path :: asked, ⟨.read path, .error e⟩ :: more,
        .skipped (fun text hr => ?_) hsought, ?_, congrArg (Files.Operation.read path :: ·) hasked⟩
      · cases (hreadable text).1 hr
      · exact hmore.trans ((congrArg (· ++ more) hturns).trans (List.append_assoc ..))

/-! ## What a text comes to -/

/-- How many warnings there are in what is told. -/
def warnings (notice : Option Notice) : Nat := (notice.toList.filter (·.level = .warn)).length

/-- The configuration `c`, with this many warnings, is what a text gives. -/
structure Follows (text : String) (c : Config) (warned : Nat) : Prop where
  /-- A text that is accepted gives its document over the defaults, and nothing else. -/
  accepted : ∀ c', parse text = .ok c' → c = c' ∧ warned = 0 ∧
    ∃ entries, Toml.parse text = .ok entries ∧ ∀ c', Overlay entries c' ↔ c' = c
  rejected : ∀ flaw, parse text = .error flaw → c = .default ∧ warned = 1

theorem follows_ofFound (found : Found) :
    Follows found.content (ofFound (some found)).1 (warnings (ofFound (some found)).2) := by
  rw [ofFound]
  cases hparse : parse found.content with
  | ok c =>
    refine ⟨fun c' h => ?_, fun flaw h => ?_⟩
    · obtain rfl := Except.ok.inj (hparse.symm.trans h)
      obtain ⟨entries, hentries, hkeyed, hoverlay⟩ := parse_overlay hparse
      refine ⟨rfl, rfl, entries, hentries, fun c' => ⟨fun h' => h'.unique hkeyed hoverlay, ?_⟩⟩
      rintro rfl
      exact hoverlay
    · cases hparse.symm.trans h
  | error flaw =>
    refine ⟨fun c h => ?_, fun _ _ => ⟨rfl, rfl⟩⟩
    cases hparse.symm.trans h

/-- What loading the configuration comes to: what is asked of the files, the configuration, and how
many warnings there are. -/
structure Loading (b : Obstacles) (env : Environment) (t : Tree) (asked : List Files.Operation)
    (c : Config) (warned : Nat) : Prop where
  /-- If the file in the working directory can be read, it alone is looked at. -/
  own : ∀ text, b.Readable t fileName text → asked = [.read fileName] ∧ Follows text c warned
  /-- If it cannot, the file in the home directory counts, if there is one. -/
  home : (∀ text, ¬b.Readable t fileName text) → ∀ home, env "HOME" = some home →
    asked = [.read fileName, .read (Path.join home fileName)] ∧
      ∀ text, b.Readable t (Path.join home fileName) text → Follows text c warned
  homeless : (∀ text, ¬b.Readable t fileName text) → env "HOME" = none → asked = [.read fileName]
  /-- If no file can be read, everything has its default, and there is no warning. -/
  neither : (∀ path ∈ candidates env, ∀ text, ¬b.Readable t path text) → c = .default ∧ warned = 0
  /-- What is missing, a directory, or no text cannot be read. -/
  skipped : ∀ path, t.NoText path → ∀ text, ¬b.Readable t path text

theorem loading_of_sought {asked : List String} {found : Option Found}
    (h : Sought b t (candidates env) asked found) :
    Loading b env t (asked.map Files.Operation.read) (ofFound found).1
      (warnings (ofFound found).2) := by
  refine ⟨fun text hr => ?_, fun hnone home hhome => ?_, fun hnone hhome => ?_, fun hnone => ?_,
    fun path hpath => hpath.not_readable⟩
  · obtain ⟨rfl, rfl⟩ := h.of_readable hr
    exact ⟨rfl, follows_ofFound ⟨fileName, text⟩⟩
  · obtain ⟨asked', rfl, hrest⟩ := h.of_not_readable hnone
    rw [hhome] at hrest
    refine ⟨?_, fun text hr => ?_⟩
    · -- the second file is looked at whether it can be read or not
      by_cases hr : ∃ text, b.Readable t (Path.join home fileName) text
      · obtain ⟨text, hr⟩ := hr
        rw [(hrest.of_readable hr).1]
        rfl
      · obtain ⟨none, rfl, hnil⟩ := hrest.of_not_readable (not_exists.1 hr)
        cases hnil
        rfl
    · rw [(hrest.of_readable hr).2]
      exact follows_ofFound ⟨_, text⟩
  · obtain ⟨asked', rfl, hrest⟩ := h.of_not_readable hnone
    rw [hhome] at hrest
    cases hrest
    rfl
  · rw [h.eq_none hnone]
    exact ⟨rfl, rfl⟩

/-- **The configuration is one file over the defaults.** The file in the working directory is looked
at before the one in the home directory; the first that can be read is taken, and the other makes no
difference. A file that is taken and rejected leaves the defaults, with one warning. -/
theorem load_overlay (b : Obstacles) (env : Environment) (t : Tree) :
    ∃ (c : Config) (notice : Option Notice) (turns : List (Turn Files.interface)),
      ((load env).run (noting b.answer)).run (t, []) = ((c, notice), t, turns) ∧
        Loading b env t (turns.map Turn.question) c (warnings notice) := by
  rcases hrun : ((load env).run (noting b.answer)).run (t, []) with ⟨⟨c, notice⟩, t', turns⟩
  obtain ⟨found, s', hfind, hload⟩ := runs_bind_iff.1 (runs_noting_iff.2 hrun)
  obtain ⟨hresult, rfl⟩ := runs_pure_iff'.1 hload
  obtain ⟨htree, asked, more, hsought, hmore, hasked⟩ := runs_readFirst hfind
  obtain rfl : t' = t := htree
  obtain rfl : turns = more := hmore
  refine ⟨c, notice, turns, hrun, ?_⟩
  obtain ⟨rfl, rfl⟩ := Prod.mk.inj hresult
  exact hasked ▸ loading_of_sought hsought

/-! ### A project's file that may not be read -/

namespace Locked

open Obstacles (locked)

def surroundings : Environment := fun name => if name = "HOME" then some "/home" else none

/-- A file in the working directory and one in the home directory. -/
def tree : Tree where
  nodes := Table.ofList [(["work"], .directory), (["home"], .directory),
    (["work", ".forge-client.toml"], .file (Text.encode "timeout_secs = 5\n")),
    (["home", ".forge-client.toml"], .file (Text.encode "[cache]\nbackend = \"none\"\n"))]
  working := ["work"]

/-- What the file in the home directory says. -/
def expected : Config :=
  { Config.default with cache := { CacheConfig.default with backend := .none } }

theorem read_own : tree.read fileName = .ok "timeout_secs = 5\n" := by decide +kernel

theorem readable_home :
    (locked fileName).Readable tree "/home/.forge-client.toml" "[cache]\nbackend = \"none\"\n" := by
  refine ⟨Obstacles.locked_fault_of_ne (by decide), read_eq_ok_iff.1 ?_⟩
  decide +kernel

theorem parse_home : parse "[cache]\nbackend = \"none\"\n" = .ok expected := by decide +kernel

/-- The file in the working directory is there but may not be read, so that the other one counts. -/
theorem load_overlay_locked :
    tree.read fileName = .ok "timeout_secs = 5\n" ∧
      ∃ (notice : Option Notice) (turns : List (Turn Files.interface)),
        ((load surroundings).run (noting (locked fileName).answer)).run (tree, []) =
            ((expected, notice), tree, turns) ∧
          turns.map Turn.question = [Files.Operation.read fileName,
            Files.Operation.read "/home/.forge-client.toml"] ∧ warnings notice = 0 := by
  obtain ⟨c, notice, turns, hrun, hloading⟩ := load_overlay (locked fileName) surroundings tree
  obtain ⟨hasked, hfollows⟩ :=
    hloading.home (Obstacles.not_readable_locked tree fileName) "/home" rfl
  have hjoin : Path.join "/home" fileName = "/home/.forge-client.toml" := by decide
  rw [hjoin] at hasked hfollows
  obtain ⟨rfl, hwarned, -⟩ := (hfollows _ readable_home).accepted expected parse_home
  exact ⟨read_own, notice, turns, hrun, hasked, hwarned⟩

end Locked

end Config

end ConditionalGet
