namespace BaseStation.Frame

def span (first last : Nat) : List Nat := (List.range (last - first)).map (first + ·)

def scan {σ : Type} (step : Nat → σ → Bool × σ) : List Nat → σ → List Nat × σ
  | [], state => ([], state)
  | frame :: frames, state =>
    let (hit, next) := step frame state
    let (hits, last) := scan step frames next
    (if hit then frame :: hits else hits, last)

end BaseStation.Frame
