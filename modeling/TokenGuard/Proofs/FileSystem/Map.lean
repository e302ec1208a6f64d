import TokenGuard.FileSystem

/-! File systems whose files are a map from paths to texts: reading gives the text that was written
last, and writing a file leaves all others. -/

namespace TokenGuard

variable {σ : Type} {fs : FileSystem (StateM σ)} {s s' : σ}
  {content : σ → Path → Except FileFault Text} {sound : σ → Prop} {listed : List Path}

/-- In sound states the files are a map from paths to texts, some of which cannot be read: reading a
listed path gives what the map has for it and changes nothing, and writing one succeeds and changes
the map there and nowhere else. -/
structure ActsAsMap (fs : FileSystem (StateM σ)) (content : σ → Path → Except FileFault Text)
    (sound : σ → Prop) (listed : List Path) : Prop where
  read : ∀ path ∈ listed, ∀ s, sound s → ∃ s',
    (fs.readText path).run s = (content s path, s') ∧ sound s' ∧ content s' = content s
  write : ∀ path ∈ listed, ∀ text s, sound s → ∃ s',
    (fs.replaceText path text).run s = (.ok (), s') ∧ sound s' ∧
      content s' = fun other => if other = path then .ok text else content s other

namespace ActsAsMap

variable {path : Path} {text : Text}

/-- Reading a listed path gives what the map has for it, in a state with the same map. -/
theorem of_read {reading : Except FileError Text} (acts : ActsAsMap fs content sound listed)
    (start : sound s) (member : path ∈ listed) (read : (fs.read path).run s = (reading, s')) :
    reading = (content s path).mapError (.read path) ∧ sound s' ∧ content s' = content s := by
  -- Reading with the path in the fault is reading and then naming the path.
  obtain ⟨t, readText, kept, same⟩ := acts.read path member s start
  rw [FileSystem.read, StateT.run_bind, readText] at read
  obtain ⟨rfl, rfl⟩ : _ = reading ∧ t = s' := Prod.mk.inj read
  exact ⟨rfl, kept, same⟩

/-- Writing a listed path succeeds, in a state whose map has the text there. -/
theorem of_write {result : Except FileError Unit} (acts : ActsAsMap fs content sound listed)
    (start : sound s) (member : path ∈ listed)
    (write : (fs.write path text).run s = (result, s')) :
    result = .ok () ∧ sound s' ∧
      content s' = fun other => if other = path then .ok text else content s other := by
  obtain ⟨t, writeText, kept, updated⟩ := acts.write path member text s start
  rw [FileSystem.write, StateT.run_bind, writeText] at write
  obtain ⟨rfl, rfl⟩ : _ = result ∧ t = s' := Prod.mk.inj write
  exact ⟨rfl, kept, updated⟩

end ActsAsMap

end TokenGuard
