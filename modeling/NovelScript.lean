import NovelScript.Main
import NovelScript.Proofs.Assembly.Blame
import NovelScript.Proofs.Assembly.Undefined
import NovelScript.Proofs.Container.Canonical
import NovelScript.Proofs.Container.Saving
import NovelScript.Proofs.Decoding
import NovelScript.Proofs.Listing.Constants
import NovelScript.Proofs.Listing.Labels
import NovelScript.Proofs.Listing.Speakers
import NovelScript.Proofs.FirstShowing
import NovelScript.Proofs.Renaming.Invariance
import NovelScript.Proofs.RoundTrip
import NovelScript.Proofs.Renaming.Statements
import NovelScript.Proofs.Renaming.Assembly
import NovelScript.Proofs.Assembly.Definitions
import NovelScript.Proofs.Container.TableOrder
import NovelScript.Proofs.Lookup
import NovelScript.Proofs.Relayout.Assembly
import NovelScript.Proofs.Container.Report
import NovelScript.Proofs.Fields
import NovelScript.Proofs.Cursors
import NovelScript.Proofs.Runs
import NovelScript.Proofs.Source.Spelling
import NovelScript.Proofs.Listing.Symbols
import NovelScript.Proofs.Source.Readable
