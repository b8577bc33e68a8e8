import SshTunnel.Proofs.Json.Written
import SshTunnel.Proofs.Settings.Members
import SshTunnel.Settings.File

/-!
Files of a newer format.  The version is looked at once the whole file has been read in the present format, so a file
is known to be newer only if it could be read as one of today.
-/

namespace SshTunnel.Settings

open Json

variable {text : String} {ms : List (Option String × Tree)} {v : UInt32}

theorem Makes.version_eq {s : Settings} (h : Makes fields ms s) (hversion : valuesOf "version" ms = [.nat v.toNat]) :
    s.version = v := by
  have hgiven : Given Tree.IsU32 1 (valuesOf "version" ms) s.version := h.given _ List.mem_cons_self
  rw [hversion, given_cons] at hgiven
  exact UInt32.toNat_inj.1 (Tree.nat.inj hgiven.2).symm

theorem loadRequired_encode (path text : String) : loadRequired path (.ok (Text.encode text)) = ofFileText text := by
  simp only [loadRequired, Text.decode?_encode]

/-- Nothing but a missing file gives the defaults. -/
theorem load_encode (path text : String) : load path (.ok (Text.encode text)) = ofFileText text := by
  have hfound : ∀ p, ofFileText text ≠ .error (.notFound p) := by
    intro p
    unfold ofFileText
    split
    · simp
    · split <;> simp
  rw [load, loadRequired_encode]
  split
  · rename_i p hp
    exact absurd hp (hfound p)
  · rfl

theorem ofFileText_newer (h : Document text.toList (.object ms)) (hversion : valuesOf "version" ms = [.nat v.toNat])
    (hnew : supportedVersion < v) (hms : Fitting fields ms) :
    ofFileText text = .error (.tooNew v supportedVersion) := by
  obtain ⟨s, hs⟩ := (exists_makes_iff complete).2 hms
  have hread := (ofJsonText_eq_ok h s).2 hs
  have hv : s.version = v := Makes.version_eq hs hversion
  simp only [ofFileText, hread, hv, if_pos hnew]

theorem ofFileText_unfit (h : Document text.toList (.object ms)) (hms : ¬ Fitting fields ms) :
    ∃ f, ofFileText text = .error (.json f (jsonDetail f)) := by
  cases hread : ofJsonText text with
  | error f => exact ⟨f, by simp only [ofFileText, hread]⟩
  | ok s => exact absurd ((exists_makes_iff complete).1 ⟨s, (ofJsonText_eq_ok h s).1 hread⟩) hms

/-- **A newer file is reported as newer exactly if its members fit the present format**; otherwise its text is at
fault.  It is never used. -/
theorem load_newer (path : String) (h : Document text.toList (.object ms))
    (hversion : valuesOf "version" ms = [.nat v.toNat]) (hnew : supportedVersion < v) :
    (load path (.ok (Text.encode text)) = .error (.tooNew v supportedVersion) ↔ Fitting fields ms) ∧
    (load path (.ok (Text.encode text)) = .error (.tooNew v supportedVersion) ∨
      ∃ f, load path (.ok (Text.encode text)) = .error (.json f (jsonDetail f))) ∧
    loadRequired path (.ok (Text.encode text)) = load path (.ok (Text.encode text)) := by
  rw [load_encode, loadRequired_encode]
  by_cases hms : Fitting fields ms
  · have hnewer := ofFileText_newer h hversion hnew hms
    exact ⟨iff_of_true hnewer hms, Or.inl hnewer, rfl⟩
  · obtain ⟨f, hf⟩ := ofFileText_unfit h hms
    have hother : ofFileText text ≠ .error (.tooNew v supportedVersion) := by
      rw [hf]
      simp
    exact ⟨iff_of_false hother hms, Or.inr ⟨f, hf⟩, rfl⟩

def futureText : String := "\x7b\"future\":\x7b\x7d,\"version\":7\x7d"

def future : List (String × Json) := [("future", .object []), ("version", .nat 7)]

theorem document_future : Document futureText.toList (.object (memberTrees future)) := by
  have htext : futureText = (Json.object future).text := by decide
  exact htext ▸ document_text (.object future)

theorem makes_future : Makes fields (memberTrees future) { version := 7 } := by
  refine ⟨by decide, ?_⟩
  simp only [fields, List.forall_mem_cons]
  exact ⟨.present rfl, .absent, .absent, .absent, .absent, .absent, .absent, by simp⟩

theorem load_newer_future :
    Document futureText.toList (.object (memberTrees future)) ∧
    valuesOf "version" (memberTrees future) = [.nat (7 : UInt32).toNat] ∧ supportedVersion < 7 ∧
    load "config.json" (.ok (Text.encode futureText)) = .error (.tooNew 7 1) := by
  have hfits := (exists_makes_iff complete).1 ⟨_, makes_future⟩
  obtain ⟨hnewer, -, -⟩ := load_newer "config.json" document_future (v := 7) rfl (by decide)
  exact ⟨document_future, rfl, by decide, hnewer.2 hfits⟩

/-- Rules that are written as objects. -/
def reworkedText : String := "\x7b\"version\":2,\"tunnels\":[\x7b\"listen\":8080\x7d]\x7d"

def reworked : List (String × Json) := [("version", .nat 2), ("tunnels", .array [.object [("listen", .nat 8080)]])]

theorem document_reworked : Document reworkedText.toList (.object (memberTrees reworked)) := by
  have htext : reworkedText = (Json.object reworked).text := by decide
  exact htext ▸ document_text (.object reworked)

theorem not_fitting_reworked : ¬ Fitting fields (memberTrees reworked) := by
  intro h
  have hrules : Fits (Tree.Typed (Tree.IsList Tree.IsString)) (valuesOf "tunnels" (memberTrees reworked)) :=
    h.fits _ (.tail _ (.tail _ (.head _)))
  obtain ⟨rules, vs, hvs, hall⟩ := hrules.will (.array [.object [(some "listen", .nat 8080)]]) (.head _)
  obtain rfl := Tree.array.inj hvs
  cases hall with
  | cons hrule _ => cases hrule

/-- A newer file whose rules look otherwise is taken for a faulty one. -/
theorem newer_taken_for_faulty :
    Document reworkedText.toList (.object (memberTrees reworked)) ∧
    valuesOf "version" (memberTrees reworked) = [.nat (2 : UInt32).toNat] ∧ supportedVersion < 2 ∧
    ∃ f, load "config.json" (.ok (Text.encode reworkedText)) = .error (.json f (jsonDetail f)) ∧
      loadRequired "config.json" (.ok (Text.encode reworkedText)) = .error (.json f (jsonDetail f)) := by
  obtain ⟨f, hf⟩ := ofFileText_unfit document_reworked not_fitting_reworked
  refine ⟨document_reworked, rfl, by decide, f, ?_, ?_⟩
  · rw [load_encode, hf]
  · rw [loadRequired_encode, hf]

end SshTunnel.Settings
