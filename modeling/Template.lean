import Template.Proofs.Markup.Expected
import Template.Proofs.Markup.InCode
import Template.Proofs.Markup.Lines
import Template.Proofs.Render.Again
import Template.Proofs.Render.Assignment
import Template.Proofs.Render.Echo
import Template.Proofs.Render.Fallback
import Template.Proofs.Render.Faults
import Template.Proofs.Render.FirstDefinitions
import Template.Proofs.Render.Gobbled
import Template.Proofs.Render.Interpolation
import Template.Proofs.Render.Limits
import Template.Proofs.Render.Loops
import Template.Proofs.Render.Quoting
import Template.Proofs.Render.Ranges
import Template.Proofs.Render.Separation
import Template.Proofs.Render.Slashes
import Template.Proofs.Render.Stop
import Template.Proofs.Render.Tolerance
import Template.Proofs.Settings.Layers
import Template.Proofs.Source.LineStarts
import Template.Proofs.Token.FirstFault
import Template.Proofs.Token.Levels
import Template.Proofs.Token.Lossless
import Template.Proofs.Tree.Chains
import Template.Proofs.Tree.Places
import Template.Proofs.Tree.StringRuns
import Template.Proofs.Value.Copies
import Template.Proofs.Value.Positions
import Template.Proofs.Value.Swap
import Template.Value.Dump
