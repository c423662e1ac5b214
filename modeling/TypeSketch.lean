import TypeSketch.Config.Reader
import TypeSketch.Filter.Program
import TypeSketch.Main
import TypeSketch.Sessions
import TypeSketch.Surface
import TypeSketch.Proofs.Acceptance
import TypeSketch.Proofs.Agreement
import TypeSketch.Proofs.Arguments
import TypeSketch.Proofs.Blocks
import TypeSketch.Proofs.ByLine
import TypeSketch.Proofs.Declaration
import TypeSketch.Proofs.Disk
import TypeSketch.Proofs.ExactValue
import TypeSketch.Proofs.Fields
import TypeSketch.Proofs.Host
import TypeSketch.Proofs.Influence
import TypeSketch.Proofs.Inputs
import TypeSketch.Proofs.Instants
import TypeSketch.Proofs.Interfaces
import TypeSketch.Proofs.Iteration
import TypeSketch.Proofs.Leftovers
import TypeSketch.Proofs.Matches
import TypeSketch.Proofs.Names
import TypeSketch.Proofs.NumeralTypes
import TypeSketch.Proofs.Output
import TypeSketch.Proofs.Parts
import TypeSketch.Proofs.Paths
import TypeSketch.Proofs.Pretty
import TypeSketch.Proofs.Reformat
import TypeSketch.Proofs.Refusal
import TypeSketch.Proofs.Renaming
import TypeSketch.Proofs.Segments
import TypeSketch.Proofs.Sessions
import TypeSketch.Proofs.Surface
import TypeSketch.Proofs.TypeTrees
import TypeSketch.Proofs.Written
