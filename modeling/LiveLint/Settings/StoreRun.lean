import LiveLint.Settings.Store

/-! Settings in use: a store and the disk that it is kept on, operation by operation. -/

namespace LiveLint.Settings

inductive StoreStep where
  | load
  | set (key : String) (value : Value)
  | get (key : String) (fallback : Value)
  | save

structure StoreRun where
  disk : Disk
  store : Store

namespace StoreRun

/-- What an operation leaves, also where it fails. -/
def step (s : StoreStep) (r : StoreRun) : StoreRun :=
  match s with
  | .load => { r with store := (r.store.load r.disk).1 }
  | .set key value => match r.store.set key value with
    | .ok (_, store) => { r with store }
    | .error _ => r
  | .get _ _ => r
  | .save => match r.store.save r.disk with
    | (disk, .ok store) => { disk, store }
    | (disk, .error _) => { r with disk }

def run (steps : List StoreStep) (r : StoreRun) : StoreRun := steps.foldl (fun r s => r.step s) r

end StoreRun
end LiveLint.Settings
